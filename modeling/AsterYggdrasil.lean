import AsterYggdrasil.Admin.AllOrNothing
import AsterYggdrasil.Admin.UserUpdates
import AsterYggdrasil.Ban.EffectiveBans
import AsterYggdrasil.Ban.Lifting
import AsterYggdrasil.Ban.Listing
import AsterYggdrasil.Contact.Cooldowns
import AsterYggdrasil.External.Invitations
import AsterYggdrasil.External.Logins
import AsterYggdrasil.External.NameSpace
import AsterYggdrasil.External.SanitizedNames
import AsterYggdrasil.Frontend.ArmWidths
import AsterYggdrasil.Frontend.FloodFill
import AsterYggdrasil.Frontend.PaintLine
import AsterYggdrasil.Frontend.PeerResults
import AsterYggdrasil.Frontend.RefreshExclusion
import AsterYggdrasil.Frontend.SkinDimensions
import AsterYggdrasil.Frontend.SkinSessions
import AsterYggdrasil.Panel.SessionListing
import AsterYggdrasil.Panel.SessionVersion
import AsterYggdrasil.Renderer.Downsample
import AsterYggdrasil.Renderer.FlatAgreement
import AsterYggdrasil.Renderer.Workspace
import AsterYggdrasil.Task.Capacity
import AsterYggdrasil.Task.LeaseGuard
import AsterYggdrasil.Texture.Fingerprints
import AsterYggdrasil.Texture.HashDeletion
import AsterYggdrasil.Texture.PreviewConfig
import AsterYggdrasil.Texture.ReportCases
import AsterYggdrasil.Texture.Sanitize
import AsterYggdrasil.Yggdrasil.AccountStatus
import AsterYggdrasil.Yggdrasil.BulkRevocation
import AsterYggdrasil.Yggdrasil.ForwardOrder
import AsterYggdrasil.Yggdrasil.ForwardedTextures
import AsterYggdrasil.Yggdrasil.NameLookup
import AsterYggdrasil.Yggdrasil.Pruning
import AsterYggdrasil.Yggdrasil.RefreshFailure
import AsterYggdrasil.Yggdrasil.RenameTokens
