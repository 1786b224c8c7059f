import Courier.Http.Exchange
import Courier.Proofs.Http.Answers
import Courier.Proofs.Http.Hosts

/-!
# What a call comes to

A request that cannot be built is an error and leaves the server alone.  Any other request is sent
once, and what comes back is told by the bytes that the server sends before it closes: a whole
answer by its status, whatever its fields ask for, and anything less is a transport failure.
-/

namespace Courier.Http

variable {request : Request} {server : Server} {url : Url} {bytes body text : Bytes}
  {status : Nat} {cause : String} {refusal : Refusal}

/-! ## Requests that can be sent -/

/-- The address that a request is sent to: the credentials go into a field, if there are any. -/
def addressSent (url : Url) : Url :=
  if (credentials? url).isSome then withoutCredentials url else url

theorem addressSent_keeps (url : Url) :
    (addressSent url).scheme = url.scheme ∧ (addressSent url).hostText = url.hostText := by
  unfold addressSent
  split <;> exact ⟨rfl, rfl⟩

/-- Everything that has to hold for a request to be sent. -/
structure Sendable (request : Request) (url : Url) : Prop where
  address : Url.read request.target.toList = .ok url
  scheme : url.scheme = "http".toList ∨ url.scheme = "https".toList
  fields : ∀ field ∈ request.headers, validField field.1 field.2 = true
  host : ∀ c ∈ url.hostText, c ∉ "\"`\x7b\x7d".toList
  length : (Utf8.encode (addressSent url).text).length ≤ longestUrl

/-- What the problem with a request says: whether its address can be read at all. -/
inductive Explains (request : Request) : Problem → Prop
  | settings {defect : Url.Defect} (hread : Url.read request.target.toList = .error defect) :
      Explains request
        (.settings ("invalid target url '" ++ request.target ++ "': " ++ defect.message))
  | internal {url : Url} (hread : Url.read request.target.toList = .ok url) (detail : String) :
      Explains request (.internal ("build request: builder error" ++ detail))

theorem explains_address (hread : Url.read request.target.toList = .ok url) (place : Url) :
    Explains request (Refusal.address place).problem := by
  have hmessage : "build request: builder error for url (" =
      "build request: builder error" ++ " for url (" := rfl
  rw [Refusal.problem, hmessage, String.append_assoc, String.append_assoc]
  exact .internal hread _

theorem explains_field (hread : Url.read request.target.toList = .ok url) :
    Explains request Refusal.field.problem := by
  have hmessage : "build request: builder error" = "build request: builder error" ++ "" := rfl
  rw [Refusal.problem, hmessage]
  exact .internal hread _

theorem isReachable_addressSent_iff : isReachable (addressSent url) = true ↔
    (url.scheme = "http".toList ∨ url.scheme = "https".toList) ∧
      (∀ c ∈ url.hostText, c ∉ "\"`\x7b\x7d".toList) ∧
      (Utf8.encode (addressSent url).text).length ≤ longestUrl := by
  obtain ⟨hscheme, hhost⟩ := addressSent_keeps url
  rw [isReachable, hscheme, hhost]
  simp only [Bool.and_eq_true, Bool.or_eq_true, decide_eq_true_eq, Bool.not_eq_true',
    List.any_eq_false, List.contains_iff_mem, and_assoc]

/-- An address of the two schemes names a server. -/
theorem hasServer_of_scheme (hread : Url.read request.target.toList = .ok url)
    (hscheme : url.scheme = "http".toList ∨ url.scheme = "https".toList) :
    url.hasServer = true := by
  refine Url.hasServer_of_read hread ?_
  rcases hscheme with hscheme | hscheme <;> rw [hscheme] <;> rfl

theorem prepare_of_read (hread : Url.read request.target.toList = .ok url) : prepare request =
    if !url.hasServer then .error (.address url)
    else if !request.headers.all fun field ↦ validField field.1 field.2 then .error .field
    else if isReachable (addressSent url) then
      .ok ⟨addressSent url, fieldsOf (addressSent url) (credentials? url) request, request.body⟩
    else .error (.address (addressSent url)) := by
  rw [prepare, hread]
  rfl

theorem prepare_of_sendable (hsendable : Sendable request url) : prepare request =
    .ok ⟨addressSent url, fieldsOf (addressSent url) (credentials? url) request, request.body⟩ := by
  have hserver := hasServer_of_scheme hsendable.address hsendable.scheme
  have hfields : (request.headers.all fun field ↦ validField field.1 field.2) = true :=
    List.all_eq_true.mpr hsendable.fields
  have hreachable := isReachable_addressSent_iff.mpr
    ⟨hsendable.scheme, hsendable.host, hsendable.length⟩
  rw [prepare_of_read hsendable.address, hserver, hfields, hreachable]
  rfl

/-- A request that cannot be sent is refused. -/
theorem prepare_of_not_sendable (hsendable : ∀ url, ¬ Sendable request url) :
    ∃ refusal, prepare request = .error refusal ∧ Explains request refusal.problem := by
  cases hread : Url.read request.target.toList with
  | error defect =>
    refine ⟨.url request.target defect, ?_, .settings hread⟩
    rw [prepare, hread]
  | ok url =>
    rw [prepare_of_read hread]
    split
    · exact ⟨.address url, rfl, explains_address hread url⟩
    · split
      · exact ⟨.field, rfl, explains_field hread⟩
      · next hfields =>
        split
        · next hreachable =>
          obtain ⟨hscheme, hhost, hlength⟩ := isReachable_addressSent_iff.mp hreachable
          have hfields : ∀ field ∈ request.headers, validField field.1 field.2 = true := by
            simpa using hfields
          exact absurd ⟨hread, hscheme, hfields, hhost, hlength⟩ (hsendable url)
        · exact ⟨.address (addressSent url), rfl, explains_address hread _⟩

/-! ## Replies -/

theorem replyOf_success_iff : replyOf url (Response.read bytes) = .success status body ↔
    status < 400 ∧ WholeSpells status body bytes := by
  rw [← Response.read_eq_whole_iff]
  cases Response.read bytes with
  | noHead => simp [replyOf, unanswered]
  | cutShort => simp [replyOf]
  | whole found part =>
    rw [replyOf, Reply.ofStatus, Response.whole.injEq]
    split
    · rw [Reply.success.injEq]
      grind
    · simp only [reduceCtorEq, false_iff]
      grind

theorem replyOf_httpFailure_iff : replyOf url (Response.read bytes) = .httpFailure status body ↔
    400 ≤ status ∧ WholeSpells status body bytes := by
  rw [← Response.read_eq_whole_iff]
  cases Response.read bytes with
  | noHead => simp [replyOf, unanswered]
  | cutShort => simp [replyOf]
  | whole found part =>
    rw [replyOf, Reply.ofStatus, Response.whole.injEq]
    split
    · simp only [reduceCtorEq, false_iff]
      grind
    · rw [Reply.httpFailure.injEq]
      grind

theorem replyOf_transportFailure_iff :
    replyOf url (Response.read bytes) = .transportFailure cause ↔
      ¬ HeadArrives bytes ∧ cause = "error sending request for url (" ++ url.text ++ ")" ∨
      HeadArrives bytes ∧ (∀ status body, ¬ WholeSpells status body bytes) ∧
        cause = "read body: error decoding response body" := by
  simp only [Response.headArrives_iff, ← Response.read_eq_whole_iff]
  cases Response.read bytes with
  | noHead => simp [replyOf, unanswered, eq_comm]
  | cutShort => simp [replyOf, eq_comm]
  | whole found part =>
    rw [replyOf, Reply.ofStatus]
    split <;> simp

/-- Wherever an answer is cut off, the call fails for want of an answer. -/
theorem replyOf_of_cut {missing : Bytes} (url : Url) (hanswer : AnswerSpells status body text)
    (hcut : text = bytes ++ missing) (hmissing : missing ≠ []) :
    ∃ cause, replyOf url (Response.read bytes) = .transportFailure cause := by
  have hpartial := Response.not_wholeSpells_of_cut hanswer hcut hmissing
  by_cases hhead : HeadArrives bytes
  · exact ⟨_, replyOf_transportFailure_iff.mpr (.inr ⟨hhead, hpartial, rfl⟩)⟩
  · exact ⟨_, replyOf_transportFailure_iff.mpr (.inl ⟨hhead, rfl⟩)⟩

/-! ## Calls -/

namespace Server

theorem isAt_addressSent (server : Server) (url : Url) :
    server.isAt (addressSent url) = server.isAt url := by
  obtain ⟨hscheme, hhost⟩ := addressSent_keeps url
  rw [isAt, isAt, hscheme, hhost]

theorem call_of_prepare {out : Outgoing} (hout : prepare request = .ok out) :
    server.call request = (.ok (replyOf out.url (server.connect out).1),
      entryOf (server.connect out).1, (server.connect out).2) := by
  rw [call, hout]

theorem connect_of_away {out : Outgoing}
    (haway : server.isAt out.url = false ∨ server.answers = []) :
    server.connect out = (.noHead, server) := by
  unfold connect
  split
  · rfl
  · next hanswers =>
    rcases haway with haway | hnone
    · rw [haway]
      rfl
    · rw [hnone] at hanswers
      contradiction

theorem connect_of_isAt {out : Outgoing} {rest : List Bytes} (hat : server.isAt out.url = true)
    (hanswers : server.answers = bytes :: rest) : server.connect out =
      (Response.read bytes, ⟨server.address, rest, server.received ++ [out]⟩) := by
  rw [connect, hanswers]
  dsimp only
  rw [hat]
  rfl

/-- A call is an error just if its request cannot be sent, and then the server gets nothing.  A
request that can be sent is sent once, and not again whatever comes back.  The reply is a success or
a failure by the status of the answer when the answer is whole, and has its body; when no head
arrives or the body is incomplete, which is the case wherever an announced answer is cut off, it is
a transport failure. -/
theorem call_tells_answer (request : Request) (server : Server) :
    ((∃ refusal, (server.call request).1 = .error refusal) ↔ ∀ url, ¬ Sendable request url) ∧
    (∀ refusal, (server.call request).1 = .error refusal →
      Explains request refusal.problem ∧ (server.call request).2 = ([], server)) ∧
    ∀ url, Sendable request url →
      (server.isAt url = false ∨ server.answers = [] →
        server.call request = (.ok (unanswered (addressSent url)), [], server)) ∧
      ∀ bytes rest, server.isAt url = true → server.answers = bytes :: rest →
        ∃ reply out, (server.call request).1 = .ok reply ∧
          prepare request = .ok out ∧ out.url = addressSent url ∧
          (server.call request).2.2 = ⟨server.address, rest, server.received ++ [out]⟩ ∧
          (∀ status body, reply = .success status body ↔
            status < 400 ∧ WholeSpells status body bytes) ∧
          (∀ status body, reply = .httpFailure status body ↔
            400 ≤ status ∧ WholeSpells status body bytes) ∧
          (∀ cause, reply = .transportFailure cause ↔
            ¬ HeadArrives bytes ∧
              cause = "error sending request for url (" ++ (addressSent url).text ++ ")" ∨
            HeadArrives bytes ∧ (∀ status body, ¬ WholeSpells status body bytes) ∧
              cause = "read body: error decoding response body") ∧
          ∀ status body text missing, AnswerSpells status body text → text = bytes ++ missing →
            missing ≠ [] → ∃ cause, reply = .transportFailure cause := by
  refine ⟨?_, ?_, ?_⟩
  · constructor
    · rintro ⟨refusal, hrefusal⟩ url hsendable
      rw [call_of_prepare (prepare_of_sendable hsendable)] at hrefusal
      contradiction
    · intro hsendable
      obtain ⟨refusal, hprepare, -⟩ := prepare_of_not_sendable hsendable
      exact ⟨refusal, by rw [call, hprepare]⟩
  · intro refusal hrefusal
    have hsendable : ∀ url, ¬ Sendable request url := by
      intro url hsendable
      rw [call_of_prepare (prepare_of_sendable hsendable)] at hrefusal
      contradiction
    obtain ⟨found, hprepare, hexplains⟩ := prepare_of_not_sendable hsendable
    rw [call, hprepare] at hrefusal ⊢
    obtain rfl := Except.error.inj hrefusal
    exact ⟨hexplains, rfl⟩
  · intro url hsendable
    have hprepare := prepare_of_sendable hsendable
    rw [← isAt_addressSent server url, call_of_prepare hprepare]
    constructor
    · intro haway
      rw [connect_of_away haway]
      rfl
    · intro bytes rest hat hanswers
      rw [connect_of_isAt hat hanswers]
      refine ⟨_, _, rfl, hprepare, rfl, rfl, ?_, ?_, ?_, ?_⟩
      · exact fun _ _ ↦ replyOf_success_iff
      · exact fun _ _ ↦ replyOf_httpFailure_iff
      · exact fun _ ↦ replyOf_transportFailure_iff
      · exact fun _ _ _ _ hanswer hcut hmissing ↦ replyOf_of_cut _ hanswer hcut hmissing

/-- A request to the echo path of a link on the same machine. -/
def posted : Request := Request.json "http://localhost:3500/link/echo" [49]

def postedUrl : Url :=
  { scheme := "http".toList
    user := []
    password := none
    host := some (.name "localhost".toList)
    service := some 3500
    path := "/link/echo".toList
    query := none
    fragment := none }

/-- An answer that names another place. -/
def redirection : Bytes :=
  Utf8.encode "HTTP/1.1 302 Found\r\nLocation: /other\r\nContent-Length: 5\r\n\r\nmoved"

theorem sendable_posted : Sendable posted postedUrl := by
  have hplain : Domain.IsPlain "localhost".toList := Domain.isPlain_of_all rfl rfl
  have hhost := Host.read_of_isPlain hplain (List.cons_ne_nil _ _) rfl
  have hscheme : Url.readScheme (Url.clean posted.target.toList) =
      some ("http".toList, "//localhost:3500/link/echo".toList) := rfl
  have huser : Url.cutLastAt "localhost:3500".toList = (none, "localhost:3500".toList) := rfl
  have hservice : Url.cutHost false "localhost:3500".toList =
      ("localhost".toList, some "3500".toList) := rfl
  have hread := Url.read_web hscheme rfl rfl rfl rfl huser hservice rfl hhost
  have hfields : (posted.headers.all fun field ↦ validField field.1 field.2) = true := rfl
  have hreachable : isReachable (addressSent postedUrl) = true := rfl
  obtain ⟨hscheme, hhost, hlength⟩ := isReachable_addressSent_iff.mp hreachable
  exact ⟨hread, hscheme, List.all_eq_true.mp hfields, hhost, hlength⟩

theorem answerSpells_redirection : AnswerSpells 302 (Utf8.encode "moved") redirection := by
  have hread : Head.read redirection = some (⟨1, 302,
      [(Utf8.encode "location", Utf8.encode "/other"),
        (Utf8.encode "content-length", Utf8.encode "5")]⟩, Utf8.encode "moved") := rfl
  obtain ⟨text, hhead, htext⟩ := Head.read_eq_some_iff.mp hread
  rw [htext]
  exact .announced (.last hhead rfl) rfl (.length (Utf8.encode "moved"))

/-- A redirection is a success and is not followed; without its last byte it is a failure, and so is
no answer.  Without a scheme there is no request. -/
theorem call_tells_answer_of_redirection :
    Sendable posted postedUrl ∧
    (∃ out, (call posted ⟨"localhost:3500".toList, [redirection, redirection], []⟩).1 =
        .ok (.success 302 (Utf8.encode "moved")) ∧
      (call posted ⟨"localhost:3500".toList, [redirection, redirection], []⟩).2.2 =
        ⟨"localhost:3500".toList, [redirection], [out]⟩) ∧
    (∃ cause, (call posted ⟨"localhost:3500".toList, [redirection.dropLast], []⟩).1 =
      .ok (.transportFailure cause)) ∧
    (call posted ⟨[], [], []⟩ = (.ok (unanswered postedUrl), [], ⟨[], [], []⟩)) ∧
    (call (Request.json "localhost" []) ⟨[], [], []⟩).2 = ([], ⟨[], [], []⟩) := by
  have hanswer := answerSpells_redirection
  have hwhole : WholeSpells 302 (Utf8.encode "moved") redirection := by
    rw [← List.append_nil redirection]
    exact .announced hanswer []
  refine ⟨sendable_posted, ?_, ?_, ?_, ?_⟩
  · obtain ⟨-, hcall⟩ := (call_tells_answer posted
      ⟨"localhost:3500".toList, [redirection, redirection], []⟩).2.2 postedUrl sendable_posted
    obtain ⟨reply, out, hreply, -, -, hserver, hsuccess, -⟩ :=
      hcall redirection [redirection] rfl rfl
    rw [(hsuccess 302 _).mpr ⟨by decide, hwhole⟩] at hreply
    exact ⟨out, hreply, hserver⟩
  · obtain ⟨-, hcall⟩ := (call_tells_answer posted
      ⟨"localhost:3500".toList, [redirection.dropLast], []⟩).2.2 postedUrl sendable_posted
    obtain ⟨reply, _, hreply, -, -, -, -, -, -, hcut⟩ :=
      hcall redirection.dropLast [] rfl rfl
    obtain ⟨cause, hcause⟩ := hcut _ _ _ [100] hanswer rfl (List.cons_ne_nil _ _)
    exact ⟨cause, hcause ▸ hreply⟩
  · obtain ⟨haway, -⟩ :=
      (call_tells_answer posted ⟨[], [], []⟩).2.2 postedUrl sendable_posted
    exact haway (.inr rfl)
  · have hrefused : (call (Request.json "localhost" []) ⟨[], [], []⟩).1 =
        .error (.url "localhost" .noScheme) := by
      have hread : Url.read (Request.json "localhost" []).target.toList = .error .noScheme := rfl
      rw [call, prepare, hread]
      rfl
    exact ((call_tells_answer _ _).2.1 _ hrefused).2

/-- A request whose address is a web address with a name that no request can be sent to. -/
def braced : Request := Request.json "http://a\x7bb/" []

def bracedUrl : Url :=
  { scheme := "http".toList
    user := []
    password := none
    host := some (.name "a\x7bb".toList)
    service := none
    path := ['/']
    query := none
    fragment := none }

theorem read_braced : Url.read braced.target.toList = .ok bracedUrl := by
  have hplain : Domain.IsPlain "a\x7bb".toList := Domain.isPlain_of_all rfl rfl
  have hhost := Host.read_of_isPlain hplain (List.cons_ne_nil _ _) rfl
  have hscheme : Url.readScheme (Url.clean braced.target.toList) =
      some ("http".toList, "//a\x7bb/".toList) := rfl
  have huser : Url.cutLastAt "a\x7bb".toList = (none, "a\x7bb".toList) := rfl
  have hservice : Url.cutHost false "a\x7bb".toList = ("a\x7bb".toList, none) := rfl
  exact Url.read_web hscheme rfl rfl rfl rfl huser hservice rfl hhost

/-- A name with a brace is a host, and yet no request is sent to it. -/
theorem call_refuses_brace :
    (∃ url, Url.read braced.target.toList = .ok url ∧ url.scheme = "http".toList) ∧
    (∀ field ∈ braced.headers, validField field.1 field.2 = true) ∧
    ∃ refusal, (call braced ⟨"a\x7bb".toList, [], []⟩).1 = .error refusal ∧
      refusal.problem = .internal "build request: builder error for url (http://a\x7bb/)" := by
  have hfields : (braced.headers.all fun field ↦ validField field.1 field.2) = true := rfl
  have hserver : bracedUrl.hasServer = true := rfl
  have hreachable : isReachable (addressSent bracedUrl) = false := rfl
  refine ⟨⟨bracedUrl, read_braced, rfl⟩, List.all_eq_true.mp hfields,
    .address (addressSent bracedUrl), ?_, rfl⟩
  rw [call, prepare_of_read read_braced, hserver, hfields, hreachable]
  rfl

end Server

end Courier.Http
