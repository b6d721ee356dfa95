import RecordTyping.Main
import RecordTyping.Projection.Struct
import RecordTyping.Proofs.BangVariants
import RecordTyping.Proofs.Coercion
import RecordTyping.Proofs.ConfigurationSearch
import RecordTyping.Proofs.DescriptorRoundTrip
import RecordTyping.Proofs.Generation
import RecordTyping.Proofs.HeaderComments
import RecordTyping.Proofs.IntegerCoercion
import RecordTyping.Proofs.InterfaceText
import RecordTyping.Proofs.NormalFormOrder
import RecordTyping.Proofs.OverrideArguments
import RecordTyping.Proofs.OverrideHistory
import RecordTyping.Proofs.OverrideOrder
import RecordTyping.Proofs.RepeatedNames
import RecordTyping.Proofs.StructuralForm
import RecordTyping.Proofs.SurroundingBlanks
import RecordTyping.Proofs.TableAnswers
import RecordTyping.Proofs.TableProjection
import RecordTyping.Proofs.TypedProjection
import RecordTyping.Proofs.VersionBands
import RecordTyping.Proofs.VersionText
import RecordTyping.Proofs.VersionedLead
