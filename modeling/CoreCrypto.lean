import CoreCrypto.Basic
import CoreCrypto.Keystore
import CoreCrypto.Mls.OpenMls
import CoreCrypto.Mls.Configuration
import CoreCrypto.Mls.Conversation
import CoreCrypto.Mls.Persistence
import CoreCrypto.Mls.Membership
import CoreCrypto.Mls.Interleaving
import CoreCrypto.Mls.ExternalCommit
import CoreCrypto.Member
import CoreCrypto.E2eIdentity.State
import CoreCrypto.Mls.Central
import CoreCrypto.Proteus.Central
import CoreCrypto.Proteus.Sessions
import CoreCrypto.Proteus.Migrate
import CoreCrypto.Proteus.Identity
import CoreCrypto.Proteus.Remigration
import CoreCrypto.Proteus.Restart
import CoreCrypto.Proteus.StoredIdentity
import CoreCrypto.Shared
