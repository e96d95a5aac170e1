import TableTalk.Main
import TableTalk.Proofs.Buffer.Room
import TableTalk.Proofs.Construction
import TableTalk.Proofs.Lexing.Display
import TableTalk.Proofs.Lexing.LineBreaks
import TableTalk.Proofs.Lexing.Recognition
import TableTalk.Proofs.Lexing.Shortage
import TableTalk.Proofs.Registry.Casing
import TableTalk.Proofs.Registry.Merging
import TableTalk.Proofs.Replay
import TableTalk.Proofs.Session.Reasons
import TableTalk.Proofs.Session.Renewal
import TableTalk.Proofs.Shell.Conversation
import TableTalk.Proofs.Shell.Leaving
import TableTalk.Proofs.Shell.OpenName
import TableTalk.Proofs.Shell.Terminal
import TableTalk.Proofs.SkipList.Attempts
import TableTalk.Proofs.SkipList.Calls
import TableTalk.Proofs.SkipList.Descent
import TableTalk.Proofs.SkipList.Spacing
import TableTalk.Proofs.Stream.Walk
