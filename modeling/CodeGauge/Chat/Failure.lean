import CodeGauge.Json.Access
import CodeGauge.Json.Writer
import CodeGauge.Text.Charset

/-!
This module contains the ways in which an exchange with a language model fails.
-/

namespace CodeGauge

open Text


/--
What goes wrong between a client and a service.
-/
inductive TransportFault where
  | timeout
  | connectTimeout
  | readTimeout
  | writeTimeout
  | poolTimeout
  | network
  | connect
  | read
  | write
  | close
  | protocol
  | localProtocol
  | remoteProtocol
  | proxy
  | unsupported
  | decoding
  | redirects
  | request
  | transport
  | http
  | address
  | stream
  | cookies
  deriving DecidableEq, Repr

namespace TransportFault

/--
Whether a fault is that of the clock or of the network, which may be gone at the next attempt.
-/
def isTransient : TransportFault → Bool
  | timeout | connectTimeout | readTimeout | writeTimeout | poolTimeout => true
  | network | connect | read | write | close => true
  | _ => false

end TransportFault

/--
Why an exchange with a language model has no result, with texts of some kind.
-/
inductive Failure (τ : Type := String) where
  /-- There is no text to judge. -/
  | emptyCode
  /-- The service has no key. -/
  | unavailable (message : τ)
  /-- The model replied, but with no JSON object. -/
  | unusable (message raw : τ)
  | provider (message : τ)
  /-- The service refused the request. -/
  | refused (message : τ) (status : Option Int)
  /-- The service asks for fewer requests, maybe after a number of seconds. -/
  | rateLimited (message : τ) (wait : Option Binary64)
  | transport (fault : TransportFault) (message : τ)
  | timedOut (message : τ)
  | disconnected (reset : Bool) (message : τ)
  | internal (message : τ)
  | invalid (message : τ)
  | system (message : τ)
  | unreadable (fault : Json.ReadFault)
  | unwritable (fault : Json.WriteFault)
  | undecodable (fault : DecodeFault)
  | unencodable (fault : EncodeFault)
  /-- The encoding that a response names gives its body no text. -/
  | illegible (fault : CharsetFault)
  | misused (fault : Json.UseFault)
  /-- There are no more replies. -/
  | noReply
  /-- A text is to be cut into pieces of no characters. -/
  | emptyChunks

def Failure.message {τ : Type} [Wording τ] : Failure τ → τ
  | .emptyCode => Wording.ofString "Code cannot be empty"
  | .unavailable message => message
  | .unusable message _ => message
  | .provider message => message
  | .refused message _ => message
  | .rateLimited message _ => message
  | .transport _ message => message
  | .timedOut message => message
  | .disconnected _ message => message
  | .internal message => message
  | .invalid message => message
  | .system message => message
  | .unreadable fault => Wording.ofString fault.message
  | .unwritable fault => Wording.ofString fault.message
  | .undecodable fault => Wording.ofString fault.message
  | .unencodable fault => Wording.ofString fault.message
  | .illegible fault => Wording.ofString fault.message
  | .misused fault => Wording.ofString fault.message
  | .noReply => Wording.ofString "pop from empty list"
  | .emptyChunks => Wording.ofString "range() arg 3 must not be zero"

end CodeGauge
