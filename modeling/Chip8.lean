import Chip8.Main
import Chip8.Proofs.Debugger.Run
import Chip8.Proofs.Debugger.Tracing
import Chip8.Proofs.Machine.KeyWait
import Chip8.Proofs.Machine.Refusals
import Chip8.Proofs.Clock.Updates
import Chip8.Proofs.Machine.Timing
import Chip8.Proofs.Machine.Throttle
import Chip8.Proofs.Machine.Replay
import Chip8.Proofs.Screen.Palette
import Chip8.Proofs.Screen.Bitmap
import Chip8.Proofs.Config.Applying
import Chip8.Proofs.Text.Integer
import Chip8.Proofs.Config.Accepted
import Chip8.Proofs.Config.Refusals
import Chip8.Proofs.Config.Completeness
import Chip8.Proofs.Window.Opening
import Chip8.Proofs.Machine.Reset
import Chip8.Proofs.Machine.Stuttering
import Chip8.Proofs.Machine.Calls
import Chip8.Proofs.Machine.ClockEvents
import Chip8.Proofs.Debugger.Watching
import Chip8.Proofs.Machine.Footprints
import Chip8.Proofs.Machine.Idling
import Chip8.Proofs.Machine.Failing
import Chip8.Proofs.Instruction.Reading
import Chip8.Proofs.Machine.Disassembly
import Chip8.Proofs.Window.Keys
import Chip8.Proofs.Window.Showing
import Chip8.Proofs.Machine.Sprites
import Chip8.Proofs.Window.Painting
import Chip8.Proofs.Window.Switching
import Chip8.Proofs.Window.NextRow
import Chip8.Proofs.Memory.Loading
import Chip8.Proofs.Machine.Arithmetic
import Chip8.Proofs.Machine.ControlFlow
import Chip8.Proofs.Machine.BlockTransfer
