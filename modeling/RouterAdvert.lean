import RouterAdvert.Binary64
import RouterAdvert.Command.Run
import RouterAdvert.Config.Build
import RouterAdvert.Config.Load
import RouterAdvert.Config.Validation
import RouterAdvert.Main
import RouterAdvert.World.View
import RouterAdvert.Proofs.Prefix.Overlap
import RouterAdvert.Proofs.Session.Exchange
import RouterAdvert.Proofs.World.Handles
import RouterAdvert.Proofs.World.Calls
import RouterAdvert.Proofs.World.History
import RouterAdvert.Proofs.PrefixSet.Growth
import RouterAdvert.Proofs.Session.Frozen
import RouterAdvert.Proofs.World.Edits
import RouterAdvert.Proofs.World.Members
import RouterAdvert.Proofs.World.References
import RouterAdvert.Proofs.World.Sound
import RouterAdvert.Proofs.World.Ledger
import RouterAdvert.Proofs.World.Counts
import RouterAdvert.Proofs.World.Attempt
import RouterAdvert.Proofs.Config.Build
import RouterAdvert.Proofs.PrefixInformation.Encoding
import RouterAdvert.Proofs.Config.Realization
import RouterAdvert.Proofs.World.Growth
import RouterAdvert.Proofs.World.Failure
import RouterAdvert.Proofs.World.WellFormed
import RouterAdvert.Proofs.Session.Since
import RouterAdvert.Proofs.Session.Phase
import RouterAdvert.Proofs.World.Phases
import RouterAdvert.Proofs.World.DefaultAttachment
import RouterAdvert.Proofs.World.Holders
import RouterAdvert.Proofs.World.OneDefault
import RouterAdvert.Proofs.World.DefaultLoop
import RouterAdvert.Proofs.Session.LastWrite
import RouterAdvert.Proofs.World.Parameters
import RouterAdvert.Proofs.World.AdvertisedFlags
import RouterAdvert.Proofs.PrefixInformation.Format
import RouterAdvert.Proofs.World.OptionStream
import RouterAdvert.Proofs.Text.Reading
import RouterAdvert.Proofs.Address.Text
import RouterAdvert.Proofs.Prefix.Text
import RouterAdvert.Proofs.World.OverlapTexts
import RouterAdvert.Proofs.Command.Agreement
import RouterAdvert.Proofs.World.Made
import RouterAdvert.Proofs.PrefixInformation.Change
import RouterAdvert.Proofs.World.Mutation
import RouterAdvert.Proofs.World.Sides
import RouterAdvert.Proofs.World.RouterSide
import RouterAdvert.Proofs.World.PrefixSide
import RouterAdvert.Proofs.World.Interference
import RouterAdvert.Proofs.Prefix.Nesting
import RouterAdvert.Proofs.PrefixSet.Culprit
import RouterAdvert.Proofs.World.Addition
import RouterAdvert.Proofs.Config.Additions
import RouterAdvert.Proofs.PrefixInformation.Legality
import RouterAdvert.Proofs.World.LegalOptions
import RouterAdvert.Proofs.Config.Order
import RouterAdvert.Proofs.Session.Attachment
import RouterAdvert.Proofs.World.Attachments
import RouterAdvert.Proofs.Text.Digits
import RouterAdvert.Proofs.Text.Separators
import RouterAdvert.Proofs.LinkAddress.Grammar
import RouterAdvert.Proofs.Address.Grammar
import RouterAdvert.Proofs.Prefix.Grammar
import RouterAdvert.Proofs.Config.Decoding
import RouterAdvert.Proofs.World.Logged
import RouterAdvert.Proofs.Command.Logging
