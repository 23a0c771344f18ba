import SciCalc.History.Sheet
import SciCalc.Main
import SciCalc.Proofs.AngleConversions
import SciCalc.Proofs.FloatOrder
import SciCalc.Proofs.InfiniteLiterals
import SciCalc.Proofs.IsolatedContents
import SciCalc.Proofs.Offences
import SciCalc.Proofs.RoundingOrder
import SciCalc.Proofs.SeparateSessions
import SciCalc.Proofs.SheetColumns
import SciCalc.Proofs.BatchRows
import SciCalc.Proofs.BatchRuns
import SciCalc.Proofs.Conversations
import SciCalc.Proofs.BadCharacters
import SciCalc.Proofs.Decompositions
import SciCalc.Proofs.Layouts
import SciCalc.Proofs.ElementSources
import SciCalc.Proofs.RepeatedRounding
import SciCalc.Proofs.FewestDigits
import SciCalc.Proofs.RoundedValues
import SciCalc.Proofs.ShownTexts
import SciCalc.Proofs.Superscripts
import SciCalc.Proofs.RepeatedSpelling
import SciCalc.Proofs.StacksInStep
import SciCalc.Proofs.FiniteSteps
