import Pipework.Main
import Pipework.Picture
import Pipework.Random.Logged
import Pipework.Random.Scripted
import Pipework.Proofs.Bounds
import Pipework.Proofs.Budget
import Pipework.Proofs.Cleanup
import Pipework.Proofs.Faultless
import Pipework.Proofs.Trail
import Pipework.Proofs.Alike
import Pipework.Proofs.Twin
import Pipework.Proofs.Motion
import Pipework.Proofs.Plane
import Pipework.Proofs.Stage
import Pipework.Proofs.Course
import Pipework.Proofs.Transcript
import Pipework.Proofs.Stopping
import Pipework.Proofs.Filling
import Pipework.Proofs.Numeral
import Pipework.Proofs.Spelling
import Pipework.Proofs.Reading
import Pipework.Proofs.Rendering
import Pipework.Proofs.Abreast
import Pipework.Proofs.Strokes
import Pipework.Proofs.Canvas
import Pipework.Proofs.Opening
import Pipework.Proofs.Colours
import Pipework.Proofs.Sizes
import Pipework.Proofs.Corner
import Pipework.Proofs.Beside
import Pipework.Proofs.Cursor
import Pipework.Proofs.Afresh
import Pipework.Proofs.Ending
import Pipework.Proofs.Turning
import Pipework.Proofs.Reversals
import Pipework.Proofs.Draws
import Pipework.Proofs.Straight
import Pipework.Proofs.Account
import Pipework.Proofs.Splitting
import Pipework.Proofs.Pacing
import Pipework.Proofs.Landing
import Pipework.Proofs.Approach
import Pipework.Proofs.Styles
import Pipework.Proofs.Faulty
import Pipework.Proofs.Aborted
import Pipework.Proofs.Setup
import Pipework.Proofs.Chronicle
