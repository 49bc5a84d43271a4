import MentionPrompt.Config.Json
import MentionPrompt.Json.Reader
import MentionPrompt.Main
import MentionPrompt.Proofs.Editing.Reload
import MentionPrompt.Proofs.Editing.Stack
import MentionPrompt.Storage.Disk
import MentionPrompt.Template.Json
import MentionPrompt.Proofs.Catalog.Snapshot
import MentionPrompt.Proofs.Validation.Dangling
import MentionPrompt.Proofs.Validation.NameClashes
import MentionPrompt.Proofs.Run.Gate
import MentionPrompt.Proofs.Template.MediaRules
import MentionPrompt.Proofs.Template.Shadowing
import MentionPrompt.Proofs.Editing.Search
import MentionPrompt.Proofs.Editing.Freshness
import MentionPrompt.Proofs.Editing.Picking
import MentionPrompt.Proofs.Json.OneLine
import MentionPrompt.Proofs.Storage.Frame
import MentionPrompt.Proofs.Storage.Paths
import MentionPrompt.Proofs.Storage.Writes
import MentionPrompt.Proofs.Storage.Logs
import MentionPrompt.Proofs.Run.Recording
import MentionPrompt.Proofs.Editing.Replay
import MentionPrompt.Proofs.Run.Auditing
import MentionPrompt.Proofs.Run.Composing
import MentionPrompt.Proofs.Resolution.Selections
import MentionPrompt.Proofs.Storage.Replacing
import MentionPrompt.Proofs.Yaml.Documents
import MentionPrompt.Proofs.Editing.Query
import MentionPrompt.Proofs.Template.Reattaching
import MentionPrompt.Proofs.Editing.ScriptPieces
import MentionPrompt.Proofs.Mention.EditHistory
import MentionPrompt.Proofs.Catalog.UploadName
