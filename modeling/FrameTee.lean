import FrameTee.Device.Choice
import FrameTee.Device.Scripted
import FrameTee.Main
import FrameTee.Request.Hardware
import FrameTee.Stack.Close
import FrameTee.Stack.Open
import FrameTee.Proofs.Ring.Inverse
import FrameTee.Proofs.Device.Channels
import FrameTee.Proofs.Device.FrameStore
import FrameTee.Proofs.Device.Reached
import FrameTee.Proofs.Device.Failed
import FrameTee.Proofs.Device.Stopped
import FrameTee.Proofs.Device.Accounting
import FrameTee.Proofs.Device.Safe
import FrameTee.Proofs.Storage.View
import FrameTee.Proofs.Stack.Transparent
import FrameTee.Proofs.Stack.Playback
import FrameTee.Proofs.Stack.Capture
import FrameTee.Proofs.Stack.Ledger
import FrameTee.Proofs.Stack.Buffers
import FrameTee.Proofs.Stack.Lockstep
import FrameTee.Proofs.Stack.Planar
import FrameTee.Proofs.Stack.Twins
import FrameTee.Proofs.Stack.Opening
import FrameTee.Proofs.Stack.Commit
import FrameTee.Proofs.Stack.Lifetime
import FrameTee.Proofs.Stack.Retransfer
import FrameTee.Proofs.Stack.Alarms
