import TextScan.Json.Decode
import TextScan.Scanner.Loop
import TextScan.Scanner.Session
import TextScan.Proofs.Regex.Matching
import TextScan.Proofs.Regex.Layout
import TextScan.Proofs.Regex.Marks
import TextScan.Proofs.Regex.Code
import TextScan.Proofs.Regex.Exploration
import TextScan.Proofs.Regex.Hits
import TextScan.Proofs.Regex.Reading
import TextScan.Proofs.Regex.Openings
import TextScan.Proofs.Regex.Weights
import TextScan.Proofs.Regex.Bounds
import TextScan.Proofs.Regex.Captures
import TextScan.Proofs.Regex.Groups
import TextScan.Proofs.Regex.Preference
import TextScan.Proofs.Regex.PreferredHits
import TextScan.Proofs.Regex.Behind
import TextScan.Proofs.Regex.LiteralSource
import TextScan.Proofs.Regex.Relocation
import TextScan.Proofs.Regex.Stages
import TextScan.Proofs.Regex.Choosing
import TextScan.Proofs.Regex.Alike
import TextScan.Proofs.Regex.Factoring
import TextScan.Proofs.Regex.OrderedChoice
import TextScan.Proofs.Regex.Shift
import TextScan.Proofs.Regex.Embedding.Cursor
import TextScan.Proofs.Regex.Embedding.Escape
import TextScan.Proofs.Regex.Embedding.Brackets
import TextScan.Proofs.Regex.Embedding.Reader
import TextScan.Proofs.Regex.Embedding.Choice
import TextScan.Proofs.Scanner.Attempts
import TextScan.Proofs.Scanner.Matching
import TextScan.Proofs.Scanner.Transparency
import TextScan.Proofs.Scanner.History
import TextScan.Proofs.Scanner.Locality
import TextScan.Proofs.Scanner.Faults
import TextScan.Proofs.Scanner.Lossless
import TextScan.Proofs.Scanner.Lineage
import TextScan.Proofs.Scanner.Caching
import TextScan.Proofs.Guarded.Basic
import TextScan.Proofs.Guarded.Offsets
import TextScan.Proofs.Guarded.Machine
import TextScan.Proofs.Guarded.Readings
import TextScan.Proofs.Guarded.Safety
import TextScan.Proofs.Scanner.Listing
import TextScan.Proofs.Scanner.Modes
import TextScan.Proofs.Scanner.FirstMatch
import TextScan.Proofs.Scanner.Literals
import TextScan.Proofs.Scanner.Groups
import TextScan.Proofs.Scanner.Choice
import TextScan.Proofs.Scanner.Tokens
import TextScan.Proofs.Scanner.Independence
import TextScan.Proofs.Text.Positions
import TextScan.Proofs.Scanner.Locations
import TextScan.Proofs.Scanner.Partition
import TextScan.Proofs.Text.Boundaries
import TextScan.Proofs.Scanner.Cursors
import TextScan.Proofs.Scanner.Characters
import TextScan.Proofs.Scanner.Peeking
import TextScan.Proofs.Scanner.Log
import TextScan.Proofs.Text.Escaping
import TextScan.Proofs.Scanner.Messages
import TextScan.Proofs.Json.Patterns
import TextScan.Proofs.Json.Pairs
import TextScan.Proofs.Regex.Advancing
import TextScan.Proofs.Regex.Rounds
import TextScan.Proofs.Regex.RoundHits
import TextScan.Proofs.Regex.Embedding.Repetition
import TextScan.Proofs.Scanner.Rounds
