import LogSift.Field.Placeholder
import LogSift.Json.Field
import LogSift.Proofs.Allocation
import LogSift.Proofs.Blamed
import LogSift.Proofs.Bounded
import LogSift.Proofs.Captures
import LogSift.Proofs.Classified
import LogSift.Proofs.Counted
import LogSift.Proofs.Declared
import LogSift.Proofs.Distinct
import LogSift.Proofs.Duplicates
import LogSift.Proofs.Encoding
import LogSift.Proofs.Filled
import LogSift.Proofs.Heads
import LogSift.Proofs.Hints
import LogSift.Proofs.Inlined
import LogSift.Proofs.Installed
import LogSift.Proofs.Interfaces
import LogSift.Proofs.Lines
import LogSift.Proofs.Listed
import LogSift.Proofs.Lockstep
import LogSift.Proofs.Numerals
import LogSift.Proofs.Placeholder
import LogSift.Proofs.Reserved
import LogSift.Proofs.Restored
import LogSift.Proofs.Surfaced
import LogSift.Proofs.Tiers
import LogSift.Proofs.Tokenless
import LogSift.Proofs.Unreached
import LogSift.Proofs.Usable
import LogSift.Proofs.Validity
import LogSift.Session
import LogSift.Settings.Yaml
