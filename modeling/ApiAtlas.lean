import ApiAtlas.Disk
import ApiAtlas.Main
import ApiAtlas.Markup.Build
import ApiAtlas.Proofs.Contents.Sections
import ApiAtlas.Proofs.Label.Access
import ApiAtlas.Proofs.Label.Kind
import ApiAtlas.Proofs.Markup.Accounting
import ApiAtlas.Proofs.Markup.Adjacency
import ApiAtlas.Proofs.Markup.Appending
import ApiAtlas.Proofs.Markup.Containment
import ApiAtlas.Proofs.Markup.History
import ApiAtlas.Proofs.Markup.Recording
import ApiAtlas.Proofs.Markup.Resolution
import ApiAtlas.Proofs.Merge.Completion
import ApiAtlas.Proofs.Merge.Conservation
import ApiAtlas.Proofs.Merge.Folding
import ApiAtlas.Proofs.Merge.Gathering
import ApiAtlas.Proofs.Merge.Idempotence
import ApiAtlas.Proofs.Merge.Instalments
import ApiAtlas.Proofs.Merge.Reordering
import ApiAtlas.Proofs.Merge.Soundness
import ApiAtlas.Proofs.Merge.Termination
import ApiAtlas.Proofs.Page.Blocks
import ApiAtlas.Proofs.Record.NormalForm
import ApiAtlas.Proofs.Record.Spelling
import ApiAtlas.Proofs.Site.Agreement
import ApiAtlas.Proofs.Site.Confinement
import ApiAtlas.Proofs.Site.Noninterference
import ApiAtlas.Proofs.Site.Sharing
import ApiAtlas.Proofs.Store.Batching
import ApiAtlas.Proofs.Store.Index
import ApiAtlas.Proofs.Store.Retention
import ApiAtlas.Proofs.Store.Run
import ApiAtlas.Proofs.Store.Search
import ApiAtlas.Proofs.Store.TitleSearch
import ApiAtlas.Store
