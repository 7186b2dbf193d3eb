import DeskScript.Main
import DeskScript.Picture.Paint
import DeskScript.Picture.PngWriter
import DeskScript.Proofs.Document.SwitchedOff
import DeskScript.Proofs.Library.BackupsKept
import DeskScript.Proofs.Run.FailureTrace
import DeskScript.Proofs.Run.Independence
import DeskScript.Proofs.Run.LateInput
import DeskScript.Proofs.Run.RunCounts
import DeskScript.Proofs.Run.Unwinding
import DeskScript.Run.Rehearsal
import DeskScript.Proofs.Yaml.SettledTokens
import DeskScript.Proofs.Document.ByteOrderMark
import DeskScript.Proofs.File.Entries
import DeskScript.Proofs.Decimal.Digits
import DeskScript.Proofs.Library.WrittenFiles
import DeskScript.Proofs.Time.Stamp
import DeskScript.Proofs.Library.BackupLists
import DeskScript.Proofs.Library.StoredBackups
import DeskScript.Proofs.Library.BackupHistory
import DeskScript.Proofs.Library.StoredApart
import DeskScript.Proofs.Script.ReadableNames
import DeskScript.Proofs.Run.Typing
import DeskScript.Proofs.Document.LiteralText
import DeskScript.Proofs.Run.Bounded
import DeskScript.Proofs.Document.ProbeIds
import DeskScript.Proofs.Document.GivenIds
import DeskScript.Proofs.Document.DistinctIds
import DeskScript.Proofs.Run.EnabledPart
import DeskScript.Proofs.Engine.Exclusion
import DeskScript.Proofs.Run.Onward
import DeskScript.Proofs.Engine.Alone
import DeskScript.Proofs.Engine.LifeCycle
import DeskScript.Proofs.Engine.Listening
import DeskScript.Proofs.Engine.LastNews
import DeskScript.Proofs.Run.Variables
import DeskScript.Proofs.Run.LoopLimits
import DeskScript.Proofs.Script.Editing
import DeskScript.Proofs.OldPlaceholders
import DeskScript.Proofs.Run.RepeatedRequests
import DeskScript.Proofs.Run.NestingLimit
import DeskScript.Proofs.Script.EditedValidity
import DeskScript.Proofs.Match.Ranking
import DeskScript.Proofs.Run.BoundNames
import DeskScript.Proofs.Match.ReadingOrder
import DeskScript.Proofs.Run.ClickPlace
import DeskScript.Proofs.Picture.RoughSearch
import DeskScript.Proofs.Screen.NearestPlace
import DeskScript.Proofs.Run.ReportRoundTrip
import DeskScript.Proofs.Picture.ExactWindows
