import TwEinvoice.Effects.Views
import TwEinvoice.Transport.Gateway

/-!
# The client of the gateway

`Pfs001HttpClient` as a program of calls to the HTTP library. The client has the library send one
request for each notification, with the same credentials in its header and in its body. How the
library does so is its own affair: it may follow redirects with further requests, and replies with
the last response.
-/

namespace TwEinvoice.Transport

open Effects Rust

/-- What the source calls of the HTTP and the JSON library, beside the requests themselves. -/
structure HttpLibrary where
  json : JsonCrate
  RequestError : Type
  fromSlice : List UInt8 → Except json.JsonError GatewayProcessStatus

variable {library : HttpLibrary}

/-- A POST request with basic authentication. -/
structure HttpRequest where
  endpoint : String
  username : String
  password : Option String
  contentType : String
  body : List UInt8
  deriving DecidableEq

/-- A call to the HTTP library. The timeouts are in seconds. `send` is one call of the library,
however many requests it then makes to follow redirects. -/
inductive HttpOp where
  | build (connectTimeout timeout : Nat)
  | send (request : HttpRequest)
  | bytes
  deriving DecidableEq

/-- The replies to the calls. Of the last response `send` gives the status code. -/
abbrev httpSignature (library : HttpLibrary) : Signature where
  Op := HttpOp
  Reply
    | .build .. => Except library.RequestError Unit
    | .send _ => Except library.RequestError UInt16
    | .bytes => Except library.RequestError (List UInt8)

/-- A call and its reply. -/
abbrev HttpEvent (library : HttpLibrary) : Type := Exchange (httpSignature library)

/-- The body of a response that is not a success is kept as it came, not yet as text. -/
inductive Pfs001HttpError (library : HttpLibrary) where
  | clientBuild (error : library.RequestError)
  | encode (error : GatewayEncodeError library.json)
  | request (error : library.RequestError)
  | httpStatus (status : UInt16) (body : List UInt8)
  | decode (error : library.json.JsonError)

/-- The steps of the client. -/
abbrev HttpProgram (library : HttpLibrary) :=
  ExceptT (Pfs001HttpError library) (Program (httpSignature library))

/-- One call. -/
abbrev httpCall (op : HttpOp) :
    Program (httpSignature library) ((httpSignature library).Reply op) :=
  Program.perform (S := httpSignature library) op

structure Pfs001HttpClient where
  endpoint : String
  credentials : GatewayCredentials

/-- `str::trim_end_matches('/')`. -/
def trimEndSlashes (text : String) : String :=
  String.ofList (text.toList.reverse.dropWhile (· = '/')).reverse

/-- `Pfs001HttpClient::with_timeout`. -/
def Pfs001HttpClient.withTimeout (baseUrl : String) (credentials : GatewayCredentials)
    (timeout : Nat) : HttpProgram library Pfs001HttpClient := do
  let endpoint := trimEndSlashes baseUrl ++ "/pfs001i/uploadInvoiceMessage"
  ExceptT.adapt .clientBuild (ExceptT.mk (httpCall (.build 10 timeout)))
  return { endpoint, credentials }

/-- `Pfs001HttpClient::new`. -/
def Pfs001HttpClient.new (baseUrl : String) (credentials : GatewayCredentials) :
    HttpProgram library Pfs001HttpClient :=
  Pfs001HttpClient.withTimeout baseUrl credentials 120

/-- `StatusCode::is_success`. -/
def isSuccess (status : UInt16) : Bool := 200 ≤ status && status < 300

/-- The request for an encoded notification. -/
def Pfs001HttpClient.request (client : Pfs001HttpClient) (body : List UInt8) : HttpRequest where
  endpoint := client.endpoint
  username := client.credentials.loginId
  password := some client.credentials.loginPassword
  contentType := "application/json"
  body := body

/-- `Pfs001HttpClient::notify`. -/
def Pfs001HttpClient.notify (client : Pfs001HttpClient) (notification : UploadNotification) :
    HttpProgram library GatewayProcessStatus := do
  let body ← ExceptT.adapt .encode
    (ExceptT.mk (pure (notification.toPfs001Json library.json client.credentials)))
  let status ← ExceptT.adapt .request (ExceptT.mk (httpCall (.send (client.request body))))
  let responseBody ← ExceptT.adapt .request (ExceptT.mk (httpCall .bytes))
  if !isSuccess status then throw (.httpStatus status responseBody)
  else ExceptT.adapt .decode (ExceptT.mk (pure (library.fromSlice responseBody)))

/-! ## What a notification sends -/

/-- The calls of `notify` with their replies, and its result. -/
inductive NotifyRun (client : Pfs001HttpClient) (notification : UploadNotification) :
    List (HttpEvent library) → Except (Pfs001HttpError library) GatewayProcessStatus → Prop where
  | refused {error} (h : notification.toPfs001Json library.json client.credentials = .error error) :
      NotifyRun client notification [] (.error (.encode error))
  | unsent {body} (error)
      (h : notification.toPfs001Json library.json client.credentials = .ok body) :
      NotifyRun client notification [⟨.send (client.request body), .error error⟩]
        (.error (.request error))
  | unread {body} (status error)
      (h : notification.toPfs001Json library.json client.credentials = .ok body) :
      NotifyRun client notification
        [⟨.send (client.request body), .ok status⟩, ⟨.bytes, .error error⟩]
        (.error (.request error))
  | failed {body status} (responseBody)
      (h : notification.toPfs001Json library.json client.credentials = .ok body)
      (hstatus : isSuccess status = false) :
      NotifyRun client notification
        [⟨.send (client.request body), .ok status⟩, ⟨.bytes, .ok responseBody⟩]
        (.error (.httpStatus status responseBody))
  | answered {body status} (responseBody)
      (h : notification.toPfs001Json library.json client.credentials = .ok body)
      (hstatus : isSuccess status = true) :
      NotifyRun client notification
        [⟨.send (client.request body), .ok status⟩, ⟨.bytes, .ok responseBody⟩]
        ((library.fromSlice responseBody).mapError .decode)

/-- The calls recorded by every run of `notify`. -/
theorem must_notify (client : Pfs001HttpClient) (notification : UploadNotification)
    (trace : List (HttpEvent library)) :
    Must (recording _) (fun _ _ => True) (client.notify notification).run
      (fun (result : Except (Pfs001HttpError library) _) final => ∃ events,
        final = trace ++ events ∧ NotifyRun client notification events result) trace := by
  unfold Pfs001HttpClient.notify
  refine must_run_bind.2 (must_run_adapt.2 ?_)
  rw [ExceptT.run_mk, must_pure]
  cases hbody : notification.toPfs001Json library.json client.credentials with
  | error error => exact ⟨[], (List.append_nil _).symm, .refused hbody⟩
  | ok body =>
      refine must_run_bind.2 (must_run_adapt.2 (must_perform_recording.2 ⟨trivial, ?_⟩))
      intro reply
      cases reply with
      | error error => exact ⟨_, rfl, .unsent error hbody⟩
      | ok status =>
          refine must_run_bind.2 (must_run_adapt.2 (must_perform_recording.2 ⟨trivial, ?_⟩))
          intro reply
          rw [List.append_assoc]
          cases reply with
          | error error => exact ⟨_, rfl, .unread status error hbody⟩
          | ok responseBody =>
              show Must _ _ (ExceptT.run (if !isSuccess status then _ else _)) _ _
              cases hstatus : isSuccess status with
              | false => exact ⟨_, rfl, .failed responseBody hbody hstatus⟩
              | true => exact must_run_adapt.2 ⟨_, rfl, .answered responseBody hbody hstatus⟩

/-- What a notification may call. -/
def Pfs001HttpClient.Sends (client : Pfs001HttpClient) (json : JsonCrate)
    (notification : UploadNotification) : HttpOp → Prop
  | .build .. => False
  | .send request => ∃ body, notification.toPfs001Json json client.credentials = .ok body ∧
      request = client.request body
  | .bytes => True

/-- A notification sends its own request and no other. -/
theorem only_notify (client : Pfs001HttpClient) (notification : UploadNotification) :
    Only (client.Sends library.json notification)
      (client.notify notification : HttpProgram library _).run := by
  unfold Pfs001HttpClient.notify
  refine must_run_bind.2 (must_run_adapt.2 ?_)
  rw [ExceptT.run_mk, must_pure]
  cases hbody : notification.toPfs001Json library.json client.credentials with
  | error error => trivial
  | ok body =>
      refine Only.run_bind (must_run_adapt.2 (must_perform.2 ⟨⟨body, hbody, rfl⟩, ?_⟩))
        fun status => ?_
      · exact fun _ _ _ => trivial
      refine Only.run_bind (must_run_adapt.2 (must_perform.2 ⟨trivial, ?_⟩)) fun responseBody => ?_
      · exact fun _ _ _ => trivial
      show Must _ _ (ExceptT.run (if !isSuccess status then _ else _)) _ _
      cases isSuccess status with
      | false => trivial
      | true => exact must_run_adapt.2 trivial

end TwEinvoice.Transport
