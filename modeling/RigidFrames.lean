import RigidFrames.Demo
import RigidFrames.Main
import RigidFrames.Model.Report
import RigidFrames.Proofs.Assembly.Acyclic
import RigidFrames.Proofs.Assembly.Refusal
import RigidFrames.Proofs.PoseMemo.History
import RigidFrames.Proofs.Query.Loops
import RigidFrames.Proofs.Session.Isolation
import RigidFrames.Proofs.Session.Refusals
import RigidFrames.Proofs.Settings.Document
import RigidFrames.Proofs.Snapshot.Drift
import RigidFrames.Proofs.Snapshot.Fixed
import RigidFrames.Proofs.Snapshot.Interleaving
import RigidFrames.Proofs.Snapshot.Isometry
import RigidFrames.Proofs.Snapshot.Pinned
import RigidFrames.Proofs.Snapshot.Stretch
import RigidFrames.Proofs.Snapshot.Transparency
import RigidFrames.Proofs.Snapshot.Turning
import RigidFrames.Query.Survey
