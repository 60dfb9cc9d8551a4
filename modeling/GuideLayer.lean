import GuideLayer.Layer.Handles
import GuideLayer.Main
import GuideLayer.Marks.Lossy
import GuideLayer.Wire.Marks
import GuideLayer.Proofs.Superseded
import GuideLayer.Proofs.Service
import GuideLayer.Proofs.SwitchOff
import GuideLayer.Proofs.Validation
import GuideLayer.Proofs.Retry
import GuideLayer.Proofs.Budget
import GuideLayer.Proofs.Throttle
import GuideLayer.Proofs.Arrival
import GuideLayer.Proofs.Rest
import GuideLayer.Proofs.Drawing
import GuideLayer.Proofs.Mirror
import GuideLayer.Proofs.Highlight
import GuideLayer.Proofs.Session
import GuideLayer.Proofs.Cards
import GuideLayer.Proofs.Shown
import GuideLayer.Proofs.Notices
import GuideLayer.Proofs.PhaseHistory
import GuideLayer.Proofs.Reload
import GuideLayer.Proofs.Identity
import GuideLayer.Proofs.Report
import GuideLayer.Proofs.ActiveGuide
import GuideLayer.Proofs.Journal
import GuideLayer.Proofs.Custody
import GuideLayer.Proofs.Plane
import GuideLayer.Proofs.Turning
import GuideLayer.Proofs.Clipping
import GuideLayer.Proofs.Outline
import GuideLayer.Proofs.Overlap
import GuideLayer.Proofs.Refetch
import GuideLayer.Proofs.SameView
import GuideLayer.Proofs.Motion
import GuideLayer.Proofs.Segments
import GuideLayer.Proofs.CardLinks
import GuideLayer.Proofs.Margin
import GuideLayer.Proofs.Screen
import GuideLayer.Proofs.Window
import GuideLayer.Proofs.Zoom
import GuideLayer.Proofs.Records
import GuideLayer.Proofs.Defaults
