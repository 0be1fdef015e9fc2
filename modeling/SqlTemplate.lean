import SqlTemplate.Main
import SqlTemplate.Proofs.Attaching
import SqlTemplate.Proofs.Blocks
import SqlTemplate.Proofs.Idempotence
import SqlTemplate.Proofs.Opacity
import SqlTemplate.Proofs.Renaming
import SqlTemplate.Resolution
import SqlTemplate.Proofs.Trimming
import SqlTemplate.Proofs.Appending
import SqlTemplate.Proofs.Placement
import SqlTemplate.Proofs.Restoring
import SqlTemplate.Proofs.Reparsing
import SqlTemplate.Proofs.Seams
import SqlTemplate.Proofs.Endings
import SqlTemplate.Proofs.Describing
import SqlTemplate.Proofs.Safety
import SqlTemplate.Proofs.Matching
import SqlTemplate.Proofs.Markers
import SqlTemplate.Proofs.Reporting
import SqlTemplate.Proofs.Closing
import SqlTemplate.Proofs.Colons
import SqlTemplate.Proofs.Margins
import SqlTemplate.Proofs.Letters
import SqlTemplate.Proofs.Lines
import SqlTemplate.Proofs.Requests
