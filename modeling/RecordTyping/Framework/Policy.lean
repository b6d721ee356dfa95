import RecordTyping.Framework.Version

/-!
# Signature policies

What the framework version decides about the signatures: releases 5.0 and 5.1 take the leading
arguments of finders and builders as a splat, later ones as optional attributes; release 5.0
declares the accessors of the collection proxy directly, later ones only `last`.
-/

namespace RecordTyping

/-- How the leading argument of a versioned method is taken. -/
inductive ParamStyle where
  | legacySplat
  | keywordAttributes
deriving DecidableEq, Repr

/-- The name of a style in data and, second, in log lines. -/
def ParamStyle.names : ParamStyle → String × String
  | .legacySplat => ("legacy_splat", "LegacySplat")
  | .keywordAttributes => ("keyword_attributes", "KeywordAttributes")

/-- Which accessors the collection proxy declares. -/
inductive ProxyAccessors where
  | directDeclarations
  | lastOnly
deriving DecidableEq, Repr

/-- The name of a choice of accessors in data and, second, in log lines. -/
def ProxyAccessors.names : ProxyAccessors → String × String
  | .directDeclarations => ("direct_declarations", "DirectDeclarations")
  | .lastOnly => ("last_only", "LastOnly")

/-- The choices that are made for a version. -/
structure Policy where
  version : FrameworkVersion
  paramStyle : ParamStyle
  proxyAccessors : ProxyAccessors
deriving DecidableEq, Repr

namespace Policy

/-- The policy for a version, which must be 5.0 or later. -/
def ofVersion (v : FrameworkVersion) : Except VersionError Policy :=
  if v.isBefore 5 0 then .error ⟨v.raw, "no signature policy for versions before 5.0"⟩
  else .ok {
    version := v
    paramStyle := if v.isOf 5 0 || v.isOf 5 1 then .legacySplat else .keywordAttributes
    proxyAccessors := if v.isOf 5 0 then .directDeclarations else .lastOnly }

/-- The policy for the version of a text. -/
def resolve (version : String) : Except VersionError Policy := do
  ofVersion (← FrameworkVersion.parse version)

end Policy

end RecordTyping
