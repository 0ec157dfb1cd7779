import ProposalGate.Forge.Script
import ProposalGate.Main
import ProposalGate.Proofs.Account
import ProposalGate.Proofs.Approvers
import ProposalGate.Proofs.AuthorList
import ProposalGate.Proofs.Canonical
import ProposalGate.Proofs.Command
import ProposalGate.Proofs.Conservation
import ProposalGate.Proofs.Context
import ProposalGate.Proofs.Conversation
import ProposalGate.Proofs.Effects
import ProposalGate.Proofs.Encoding
import ProposalGate.Proofs.Faults
import ProposalGate.Proofs.Framing
import ProposalGate.Proofs.Handles
import ProposalGate.Proofs.HeadContent
import ProposalGate.Proofs.Header
import ProposalGate.Proofs.Hex
import ProposalGate.Proofs.Isolation
import ProposalGate.Proofs.Layout
import ProposalGate.Proofs.Percent
import ProposalGate.Proofs.Policy
import ProposalGate.Proofs.Resolution
import ProposalGate.Proofs.Rest.Comparison
import ProposalGate.Proofs.Rest.Link
import ProposalGate.Proofs.Sequential
