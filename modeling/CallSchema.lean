import CallSchema.Main
import CallSchema.Document.Serialized
import CallSchema.Session
import CallSchema.Proofs.Members
import CallSchema.Proofs.Resolution
import CallSchema.Proofs.Iteration
import CallSchema.Proofs.References
import CallSchema.Proofs.Consistency
import CallSchema.Proofs.Layout
import CallSchema.Proofs.Soundness
import CallSchema.Proofs.Missing
import CallSchema.Proofs.Dependence
import CallSchema.Proofs.Grammar
import CallSchema.Proofs.Serialization
import CallSchema.Proofs.Renaming
import CallSchema.Proofs.Equivariance
import CallSchema.Proofs.Reordering
import CallSchema.Proofs.JsonText
import CallSchema.Proofs.Writing
import CallSchema.Proofs.Check
import CallSchema.Proofs.Describe
import CallSchema.Proofs.Room
import CallSchema.Proofs.LineBreak
import CallSchema.Proofs.Lossless
import CallSchema.Proofs.ClosedWalk
import CallSchema.Proofs.Unfolding
import CallSchema.Proofs.Blame
import CallSchema.Proofs.Expansion
import CallSchema.Proofs.Sizes
import CallSchema.Proofs.NewAlias
import CallSchema.Proofs.NewBacking
import CallSchema.Proofs.LoadTiers
import CallSchema.Proofs.NameChecks
import CallSchema.Proofs.Kinds
import CallSchema.Proofs.Places
import CallSchema.Proofs.Outline
