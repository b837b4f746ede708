import Ducat.Main
import Ducat.Proofs.Arithmetic.ReadBack
import Ducat.Proofs.Evaluation.Braces
import Ducat.Proofs.Evaluation.CallDepth
import Ducat.Proofs.Evaluation.Consistency
import Ducat.Proofs.Evaluation.DeadCode
import Ducat.Proofs.Evaluation.DeclaredTypes
import Ducat.Proofs.Evaluation.LimitedDevice
import Ducat.Proofs.Evaluation.ScopeNames
import Ducat.Proofs.Evaluation.Termination
import Ducat.Proofs.Evaluation.Unmentioned
import Ducat.Proofs.Grammar.Contract
import Ducat.Proofs.Grammar.Reordering
import Ducat.Proofs.Grammar.Respelling
import Ducat.Proofs.Grammar.WellFormed
import Ducat.Proofs.Grammar.WrongToken
import Ducat.Proofs.Money.Total
import Ducat.Proofs.Token.DeclaredCurrency
import Ducat.Proofs.Value.Division
import Ducat.Proofs.Value.IntegerCast
import Ducat.Proofs.Value.Order
