import DbConnection.ClassifiedErrors
import DbConnection.Compat.Isolation
import DbConnection.Compat.KeyHistory
import DbConnection.Compat.LegacyLimit
import DbConnection.Compat.LosslessBridge
import DbConnection.Compat.StoredColumn
import DbConnection.Compat.StoredSecrets
import DbConnection.Compat.Upsert
import DbConnection.Compat.UrlBuilder
import DbConnection.ConnectionLimit
import DbConnection.ConcurrentConsent
import DbConnection.ConcurrentHistory
import DbConnection.CreateResponses
import DbConnection.EncryptionRefinement
import DbConnection.ExtensionBuilder
import DbConnection.FtpDirectory
import DbConnection.HealthCheckProbes
import DbConnection.Lib.PydanticUnions
import DbConnection.Listing
import DbConnection.NormalisationStability
import DbConnection.PatchExtensions
import DbConnection.PatchComposition
import DbConnection.PatchProperties
import DbConnection.PolicyContext
import DbConnection.Registration
import DbConnection.Repair
import DbConnection.RequestRouting
import DbConnection.RequestsAfterWrites
import DbConnection.ResponseExtensions
import DbConnection.SecretIndependence
import DbConnection.Serializability
import DbConnection.ServerErrors
import DbConnection.StoredCredentials
import DbConnection.UnitsOfWork
import DbConnection.UpdateFrame
