import Conscrypt.Bignum.Codec
import Conscrypt.Bignum.Size
import Conscrypt.Bignum.KeyMethods
import Conscrypt.Bignum.RsaKey
import Conscrypt.Digest.EvpUpdate
import Conscrypt.Engine.BioStream
import Conscrypt.Engine.ByName
import Conscrypt.Ssl.Wakeup
import Conscrypt.Ssl.Outcome
import Conscrypt.Ssl.Pipe
import Conscrypt.Ssl.CipherList
import Conscrypt.Ssl.Alpn
import Conscrypt.Ssl.Callbacks
import Conscrypt.Ssl.Credentials
import Conscrypt.X509.AltNames
import Conscrypt.X509.Time
import Conscrypt.X509.Ocsp
import Conscrypt.X509.Extensions
import Conscrypt.X509.BitString
import Conscrypt.X509.PkiPath
