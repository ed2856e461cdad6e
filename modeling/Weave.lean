import Weave.Declaration.ProxyDeclaration
import Weave.Proofs.DirectReading
import Weave.Proofs.PoolLoans
import Weave.Proofs.ChainMemory
import Weave.Proofs.PassingAdvice
import Weave.Proofs.Transparency
import Weave.Proofs.TypedTargets
import Weave.Proofs.Dispatching
import Weave.Proofs.AutomaticProxies
import Weave.Proofs.ExpressionTrees
import Weave.Proofs.TypedViews
import Weave.Proofs.TargetReplacement
import Weave.Proofs.Freezing
import Weave.Proofs.ExcludedNames
import Weave.Proofs.RenamedClasses
import Weave.Proofs.Passages
import Weave.Proofs.Unwinding
import Weave.Proofs.ExecutionTexts
import Weave.Proofs.Spellings
import Weave.Proofs.NameRules
import Weave.Proofs.PointcutSteps
import Weave.Proofs.NestedRetries
import Weave.Proofs.ErrorLayers
import Weave.Proofs.StrayReturns
import Weave.Proofs.ProcessorOrder
import Weave.Proofs.AdvisorLists
import Weave.Proofs.RegisteredClasses
import Weave.Proofs.AnchoredPatterns
import Weave.Proofs.TypeNames
import Weave.Proofs.BorrowedParts
import Weave.Proofs.DeclaredNames
import Weave.Bench.Condition
import Weave.Bench.Files
import Weave.Bench.Reports
import Weave.Bench.Step
