import DiceLang.Expr.Machine
import DiceLang.Expr.Precedence
import DiceLang.Integer.Stepwise
import DiceLang.Roller.Seeded
import DiceLang.Session
import DiceLang.Proofs.Reading.Frames
import DiceLang.Proofs.Reading.Steps
import DiceLang.Proofs.Reading.Soundness
import DiceLang.Proofs.Errors
import DiceLang.Proofs.Reading.Completeness
import DiceLang.Proofs.RollLimit
import DiceLang.Proofs.RollCounter
import DiceLang.Proofs.Reading.Faults
import DiceLang.Proofs.Plans
import DiceLang.Proofs.StaticKinds
import DiceLang.Proofs.StackMachine
import DiceLang.Proofs.Relocation
import DiceLang.Proofs.Sequence
import DiceLang.Proofs.Reading.Interrupted
import DiceLang.Proofs.FailingOperator
import DiceLang.Proofs.Registrations
import DiceLang.Proofs.DiceDrawn
import DiceLang.Proofs.Grouping
import DiceLang.Proofs.Reading.AnnouncedKinds
import DiceLang.Proofs.Mappings
import DiceLang.Proofs.Explosions
import DiceLang.Proofs.Courses
import DiceLang.Proofs.Numerals
import DiceLang.Proofs.DiceDomains
import DiceLang.Proofs.ExplosionEnds
import DiceLang.Proofs.DiceRanges
import DiceLang.Proofs.KeptMembers
import DiceLang.Proofs.KeptParts
import DiceLang.Proofs.Concatenations
import DiceLang.Proofs.Arithmetic
import DiceLang.Proofs.SummingOrder
import DiceLang.Proofs.UniformFaces
import DiceLang.Proofs.UnambiguousDisplay
