import Mailroom.Delivery.Recorder
import Mailroom.Delivery.Session
import Mailroom.Modifier.Recorder
import Mailroom.Pipeline
import Mailroom.Proofs.Delivery.AccountNames
import Mailroom.Proofs.Delivery.LoginAccount
import Mailroom.Proofs.Delivery.Logins
import Mailroom.Proofs.Delivery.SignedMail
import Mailroom.Proofs.Dkim.BodyAlgebra
import Mailroom.Proofs.Dkim.FoldedLines
import Mailroom.Proofs.Dkim.IdentifierDomain
import Mailroom.Proofs.Dkim.KeyStability
import Mailroom.Proofs.Dkim.Listing
import Mailroom.Proofs.Dkim.PickedPlaces
import Mailroom.Proofs.Dkim.QuotedValue
import Mailroom.Proofs.Dkim.RelaxedNormalForm
import Mailroom.Proofs.Dkim.SignedOctets
import Mailroom.Proofs.Dkim.SignerCalls
import Mailroom.Proofs.Dkim.SignerRuns
import Mailroom.Proofs.Dkim.Validity
import Mailroom.Proofs.Header.Grammar
import Mailroom.Proofs.Store.BodyFiles
import Mailroom.Proofs.Store.JunkRouting
import Mailroom.Proofs.Store.SizeText
import Mailroom.Proofs.Store.StoredSize
