import CodeEditor.CommandLine
import CodeEditor.Proofs.Checked.Session
import CodeEditor.Proofs.EventBus
import CodeEditor.Proofs.Gutter
import CodeEditor.Proofs.History.Limits
import CodeEditor.Proofs.Layers
import CodeEditor.Proofs.Session.Joining
import CodeEditor.Proofs.Session.LineMovement
import CodeEditor.Proofs.Terminal
import CodeEditor.Proofs.Session.Announcements
import CodeEditor.Proofs.Session.Mirror
import CodeEditor.Proofs.Session.View
import CodeEditor.Proofs.Session.Equipment
import CodeEditor.Proofs.Session.Refusal
import CodeEditor.Proofs.Session.Switching
import CodeEditor.Proofs.Session.Reopening
import CodeEditor.Proofs.Library.Menu
import CodeEditor.Proofs.Session.Substitution
import CodeEditor.Proofs.Settings.Sharing
import CodeEditor.Proofs.CommandLine.Highlighting
import CodeEditor.Proofs.Session.Newline
import CodeEditor.Proofs.Library.Search
import CodeEditor.Proofs.CommandLine.Listing
import CodeEditor.Proofs.Occurrences.Count
import CodeEditor.Proofs.Emboldening.Union
import CodeEditor.Proofs.CommandLine.Preferences
import CodeEditor.Proofs.Revision
import CodeEditor.Proofs.Lines.Coordinates
import CodeEditor.Proofs.Color
import CodeEditor.Proofs.Theme.Scopes
import CodeEditor.Proofs.EmptySpan
import CodeEditor.Proofs.StringLiterals
import CodeEditor.Proofs.Grammar
import CodeEditor.Proofs.Session.Answers
import CodeEditor.Proofs.EventBus.Delivery
import CodeEditor.Proofs.Checked.Gutter
import CodeEditor.Proofs.Gutter.Wrapping
