import TouchOverlay.Main
import TouchOverlay.Proofs.Session
import TouchOverlay.Proofs.Motion
import TouchOverlay.Proofs.Run
import TouchOverlay.Proofs.TimerOwnership
import TouchOverlay.Proofs.Routing
import TouchOverlay.Proofs.ClaimProtocol
import TouchOverlay.Proofs.DragTiming
import TouchOverlay.Proofs.DragButton
import TouchOverlay.Proofs.DragCriterion
import TouchOverlay.Proofs.TimeSlicing
import TouchOverlay.Proofs.LoopRefinement
import TouchOverlay.Proofs.HeldButton
import TouchOverlay.Proofs.StaleTimers
import TouchOverlay.Proofs.PressAccounting
import TouchOverlay.Proofs.ToggleBits
import TouchOverlay.Proofs.Twins
import TouchOverlay.Proofs.Lockstep
import TouchOverlay.Proofs.Isolation
import TouchOverlay.Proofs.Quiescence
import TouchOverlay.Proofs.Collaborators
import TouchOverlay.Proofs.PassThrough
import TouchOverlay.Proofs.TimeShift
import TouchOverlay.Proofs.FiringOrder
import TouchOverlay.Proofs.OnTime
import TouchOverlay.Proofs.Arbitration
import TouchOverlay.Proofs.Atomicity
import TouchOverlay.Proofs.Relayout
import TouchOverlay.Proofs.Withdrawals
import TouchOverlay.Proofs.Removal
import TouchOverlay.Proofs.Simultaneous
import TouchOverlay.Proofs.HitTest
import TouchOverlay.Proofs.PendingTimers
import TouchOverlay.Proofs.DirectionSlides
import TouchOverlay.Proofs.Drags
import TouchOverlay.Proofs.ActionLists
import TouchOverlay.Proofs.ReplayableTraces
import TouchOverlay.Proofs.GesturePhases
import TouchOverlay.Proofs.StoredSettings
