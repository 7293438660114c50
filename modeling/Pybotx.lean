import Pybotx.Foundation.Text
import Pybotx.Foundation.Uuid
import Pybotx.Foundation.Json
import Pybotx.Errors
import Pybotx.Models.BotAccount
import Pybotx.Auth
import Pybotx.Bot.Verification
import Pybotx.Bot.BotAccountsStorage
import Pybotx.Client.AuthorizedBotXMethod
import Pybotx.Foundation.LazyPattern
import Pybotx.Foundation.Rewriting
import Pybotx.Models.ApiBase
import Pybotx.Models.Message.Mentions
import Pybotx.Models.Message.MentionsSubstitution
import Pybotx.Models.Message.MentionsRoundTrip
import Pybotx.Foundation.Sparse
import Pybotx.Foundation.Base64
import Pybotx.Models.Attachments
import Pybotx.Models.Message.Markup
import Pybotx.Client.MessagePayloads
import Pybotx.Foundation.Validation
import Pybotx.Models.Enums
import Pybotx.Models.Scalars
import Pybotx.Models.ApiAttachments
import Pybotx.Models.BaseCommand
import Pybotx.Models.Files
import Pybotx.Models.Message.Entities
import Pybotx.Models.Message.IncomingMessage
import Pybotx.Models.SystemEvents
import Pybotx.Bot.VerificationErrors
import Pybotx.Models.Commands
import Pybotx.Bot.Resources
import Pybotx.Bot.CommandDispatch
import Pybotx.Bot.EndpointErrors
import Pybotx.Client.MethodExecution
import Pybotx.Client.ChatsApi
import Pybotx.Client.EventsApi
import Pybotx.Client.NotificationsApi
import Pybotx.Client.SmartappsApi
import Pybotx.Client.StickersApi
import Pybotx.Client.ServiceApis
import Pybotx.Client.UsersApi
import Pybotx.Client.ApiMethods
import Pybotx.Client.ResponseErrors
import Pybotx.Client.NetworkErrors
import Pybotx.Client.QueryParameters
import Pybotx.Foundation.Words
import Pybotx.Models.Message.Arguments
import Pybotx.Models.Pruning
import Pybotx.Bot.MessageText
import Pybotx.Foundation.Returning
import Pybotx.Models.Message.EntityConversion
import Pybotx.Models.AttachmentsRoundTrip
import Pybotx.Models.FilesRoundTrip
import Pybotx.Foundation.Rows
import Pybotx.Models.Message.MarkupBuilding
import Pybotx.Models.Message.Contents
import Pybotx.Models.EditedMessages
import Pybotx.Models.Message.MentionsTotality
import Pybotx.Client.BodyLimit
import Pybotx.Client.Requests
import Pybotx.Client.ManifestPayload
import Pybotx.Client.ChatCreation
import Pybotx.Client.StickerPacks
import Pybotx.Client.StickerUpload
import Pybotx.Bot.CommandLogging
import Pybotx.Client.ChatMembers
import Pybotx.Client.UserSearch
import Pybotx.Foundation.Paging
import Pybotx.Client.StickerPackPages
import Pybotx.Foundation.Interleaving
import Pybotx.Bot.Application
import Pybotx.Bot.ApplicationRuns
import Pybotx.Bot.ExampleApplication
import Pybotx.Client.TokenCalls
import Pybotx.Client.FileTransfers
import Pybotx.Client.FileOpening
import Pybotx.Foundation.Csv
import Pybotx.Client.UsersExport
import Pybotx.Client.Destinations
import Pybotx.Client.StickerPackWalks
import Pybotx.Bot.Admission
import Pybotx.Client.PersonalChat
import Pybotx.Client.RequestLogging
import Pybotx.Client.MessageReading
