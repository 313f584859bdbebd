import ChordRules.Item.Address
import ChordRules.Report
import ChordRules.Text.Quoted

/-! # Setting the state of an item

Items live on a server and have a state, a text. Setting it is one exchange: a request with the
state as its body, and a response whose status tells whether it was accepted. The network is
given as what it does with a request. -/
namespace ChordRules

/-- What a network does when a server is asked. -/
inductive Network where
  /-- No connection comes about. -/
  | fails (fault : IoFault)
  /-- The server hangs up without an answer. -/
  | hangsUp
  | answers (status : Nat) (body : List UInt8)

structure Request where
  line : String
  headers : List String
  body : String
  deriving DecidableEq, Repr

/-- Why the state of an item could not be set. -/
inductive ItemFault where
  | badAddress (url : String) (fault : AddressFault)
  | unsupported (url : String)
  | io (fault : IoFault)
  | noAnswer
  | badRequest (fault : AddressFault)
  | refused (status : Nat) (body : String)
  deriving DecidableEq, Repr

/-- The standard reasons of the statuses that refuse a request. -/
def reasons : List (Nat × String) :=
  [(300, "Multiple Choices"), (301, "Moved Permanently"), (302, "Found"), (303, "See Other"),
   (304, "Not Modified"), (305, "Use Proxy"), (307, "Temporary Redirect"),
   (308, "Permanent Redirect"), (400, "Bad Request"), (401, "Unauthorized"),
   (402, "Payment Required"), (403, "Forbidden"), (404, "Not Found"),
   (405, "Method Not Allowed"), (406, "Not Acceptable"),
   (407, "Proxy Authentication Required"), (408, "Request Timeout"), (409, "Conflict"),
   (410, "Gone"), (411, "Length Required"), (412, "Precondition Failed"),
   (413, "Payload Too Large"), (414, "URI Too Long"), (415, "Unsupported Media Type"),
   (416, "Range Not Satisfiable"), (417, "Expectation Failed"), (418, "I'm a teapot"),
   (421, "Misdirected Request"), (422, "Unprocessable Entity"), (423, "Locked"),
   (424, "Failed Dependency"), (425, "Too Early"), (426, "Upgrade Required"),
   (428, "Precondition Required"), (429, "Too Many Requests"),
   (431, "Request Header Fields Too Large"), (451, "Unavailable For Legal Reasons"),
   (500, "Internal Server Error"), (501, "Not Implemented"), (502, "Bad Gateway"),
   (503, "Service Unavailable"), (504, "Gateway Timeout"), (505, "HTTP Version Not Supported"),
   (506, "Variant Also Negotiates"), (507, "Insufficient Storage"), (508, "Loop Detected"),
   (510, "Not Extended"), (511, "Network Authentication Required")]

def reason (status : Nat) : String := (reasons.lookup status).getD "<unknown status code>"

def ItemFault.message : ItemFault → String
  | badAddress url fault => "invalid URL " ++ url ++ ": " ++ fault.message
  | unsupported url => "unsupported URL " ++ url ++ ", expected http://host[:port]"
  | io fault => "I/O error: " ++ fault.message
  | noAnswer => "HTTP error: connection closed before message completed"
  | badRequest fault => "invalid request: " ++ fault.message
  | refused status body => "(" ++ showNat status ++ " " ++ reason status ++ ") " ++ body

/-- The address of an item on the server with the given base address. -/
def itemUrl (base item : String) : String := base ++ "/rest/items/" ++ percentEncode item

/-- Where a request goes. -/
structure Destination where
  host : List Char
  port : Nat
  authority : List Char
  target : List Char
  deriving DecidableEq, Repr

/-- The destination behind an address. Only one scheme can be spoken. -/
def Destination.ofUrl (url : String) : Except ItemFault Destination :=
  match Address.ofText url with
  | .error fault => .error (.badAddress url fault)
  | .ok a =>
    if a.scheme = some "http" then
      .ok ⟨a.host, a.port?.getD 80, a.authority, if a.target = [] then ['/'] else a.target⟩
    else .error (.unsupported url)

/-- The request that sets a state. A target is an address without scheme and authority. -/
def Destination.request (d : Destination) (state : String) : Except ItemFault Request :=
  match Address.ofText (String.ofList d.target) with
  | .error fault => .error (.badRequest fault)
  | .ok _ =>
    .ok { line := "POST " ++ String.ofList d.target ++ " HTTP/1.1"
          headers :=
            (if state = "" then [] else ["content-length: " ++ showNat state.utf8ByteSize]) ++
              ["content-type: text/plain", "host: " ++ String.ofList d.authority]
          body := state }

/-- What the server gives for a request. A `Not Modified` response never has a body. -/
def Network.reply : Network → Except ItemFault Unit
  | fails fault => .error (.io fault)
  | hangsUp => .error .noAnswer
  | answers status body =>
    if status ≤ 299 then .ok ()
    else .error (.refused status (if status = 304 then "" else decodeLenient body))

/-- What setting a state came to: the lines logged, the request that was sent, and the result. -/
structure Exchange where
  log : List LogLine
  sent : Option Request
  result : Except ItemFault Unit

/-- Sets the state of an item. Nothing is sent unless a connection comes about. -/
def setState (network : Network) (base item state : String) : Exchange :=
  let url := itemUrl base item
  match Destination.ofUrl url with
  | .error fault => ⟨[], none, .error fault⟩
  | .ok d =>
    let log := [⟨.debug, .items, "POST " ++ url ++ " <- " ++ quote state⟩]
    match network, d.request state with
    | .fails fault, _ => ⟨log, none, .error (.io fault)⟩
    | _, .error fault => ⟨log, none, .error fault⟩
    | network, .ok r => ⟨log, some r, network.reply⟩

end ChordRules
