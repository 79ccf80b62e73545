import LoginGateway.Run
import LoginGateway.Proofs.Gateway.Login
import LoginGateway.Proofs.Gateway.Provenance
import LoginGateway.Proofs.Gateway.Updates
import LoginGateway.Proofs.Token.Authenticity
import LoginGateway.Proofs.Token.Meaning
import LoginGateway.Proofs.Gateway.Landing
import LoginGateway.Proofs.ReturnUrl.Stability
import LoginGateway.Proofs.Secret.Spelling
import LoginGateway.Proofs.Gateway.Traffic
import LoginGateway.Proofs.Gateway.KeyHistory
import LoginGateway.Proofs.Gateway.Revocation
import LoginGateway.Proofs.Gateway.Resolution
import LoginGateway.Proofs.Gateway.Routing
import LoginGateway.Proofs.Gateway.Verdict
import LoginGateway.Proofs.Gateway.Rejection
import LoginGateway.Proofs.Gateway.Records
import LoginGateway.Proofs.Gateway.Exchange
import LoginGateway.Proofs.Token.Instances
import LoginGateway.Proofs.Token.Tampering
import LoginGateway.Proofs.Cookie.Browser
import LoginGateway.Proofs.Gateway.Recognition
import LoginGateway.Proofs.Cookie.Fields
import LoginGateway.Proofs.Gateway.Cookies
import LoginGateway.Proofs.Time.Calendar
import LoginGateway.Proofs.Time.HttpDate
import LoginGateway.Proofs.Time.Reading
import LoginGateway.Proofs.Http.Response
import LoginGateway.Proofs.Gateway.Sending
import LoginGateway.Proofs.Cookie.Attributes
import LoginGateway.Proofs.Documents
import LoginGateway.Proofs.Config.Normal
import LoginGateway.Proofs.Config.SecretList
import LoginGateway.Proofs.Config.Variables
import LoginGateway.Proofs.Config.Sources
import LoginGateway.Proofs.Config.ListedKeys
