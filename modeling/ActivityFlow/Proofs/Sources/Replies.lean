import ActivityFlow.Proofs.Sources.Fetch

/-!
# The replies to a fetch

A fetch from a collection sends one request in each attempt. A reply that carries records ends
the invocation, and so does one whose status has a known cause; every other reply is followed by
another request, as long as attempts are left. What the invocation ends with is told by the last
reply alone.
-/
namespace ActivityFlow

/-! ## What a reply says -/

/-- The statuses with a known cause. -/
inductive StatusCause : Nat → FailureKind → Prop where
  | unauthorized : StatusCause 401 .tokenExpired
  | forbidden : StatusCause 403 .tokenExpired
  | notFound : StatusCause 404 .documentNotFound
  | tooManyRequests : StatusCause 429 .resourceExhausted

theorem StoreError.statusKind?_eq_some_iff {status : Nat} {kind : FailureKind} :
    statusKind? status = some kind ↔ StatusCause status kind := by
  constructor
  · intro h
    unfold statusKind? at h
    split_ifs at h with hcredential hmissing hlimit
    · obtain rfl := Option.some.inj h
      have hstatus : status = 401 ∨ status = 403 := by simpa using hcredential
      rcases hstatus with rfl | rfl
      · exact .unauthorized
      · exact .forbidden
    · obtain rfl := Option.some.inj h
      exact hmissing ▸ .notFound
    · obtain rfl := Option.some.inj h
      exact hlimit ▸ .tooManyRequests
  · rintro (_ | _ | _ | _) <;> rfl

/-- A status with a known cause is no success. -/
theorem StatusCause.not_success {status : Nat} {kind : FailureKind} (h : StatusCause status kind) :
    ¬ (200 ≤ status ∧ status < 300) := by
  cases h <;> omega

/-- A document holds records: it is an array of them or an object with this array under
`results`. -/
def Json.HoldsRecords (value : Json) (records : List Json) : Prop :=
  value = .array records ∨
    ∃ fields, value = .object fields ∧ Fields.get? fields "results" = some (.array records)

namespace Reply

/-- A reply carries records: it is a success with a body that holds them. -/
def Carries (reply : Reply) (records : List Json) : Prop :=
  ∃ status body said value, reply = .answered status (some body) said ∧
    (200 ≤ status ∧ status < 300) ∧ Json.parse? body = some value ∧ value.HoldsRecords records

/-- A reply has a status with a known cause. -/
def Blames (reply : Reply) (status : Nat) (kind : FailureKind) : Prop :=
  (∃ body said, reply = .answered status body said) ∧ StatusCause status kind

/-- No request follows a reply that carries records or has a status with a known cause. -/
def Settles (reply : Reply) : Prop :=
  (∃ records, reply.Carries records) ∨ ∃ status kind, reply.Blames status kind

/-- The text of the error that a client meets in a reply to a query at an address. What is said
about a request that gets no reply, or about a body that is no document, is handed on. -/
inductive Meets (url : Url) (request : Request) : Reply → String → Prop where
  | unanswered (said : Url → String) :
    Meets url request (.unanswered said)
      ("request to " ++ url.text ++ " failed: " ++ said request.url)
  | status {status : Nat} {body : Option String} {said : String}
      (h : ¬ (200 ≤ status ∧ status < 300)) :
    Meets url request (.answered status body said)
      ("POST " ++ url.text ++ " returned " ++ toString status ++ ": " ++ body.getD "")
  | unread {status : Nat} {said : String} (h : 200 ≤ status ∧ status < 300) :
    Meets url request (.answered status none said)
      ("failed to decode response from " ++ url.text ++ ": " ++ said)
  | undecodable {status : Nat} {body said : String} (h : 200 ≤ status ∧ status < 300)
      (hbody : Json.parse? body = none) :
    Meets url request (.answered status (some body) said)
      ("failed to decode response from " ++ url.text ++ ": " ++ said)
  | misshapen {status : Nat} {body said : String} {value : Json}
      (h : 200 ≤ status ∧ status < 300) (hbody : Json.parse? body = some value)
      (hvalue : ∀ records, ¬ value.HoldsRecords records) :
    Meets url request (.answered status (some body) said)
      ("failed to decode response from " ++ url.text ++ ": " ++ "expected an array of records")

theorem carries_or_meets (url : Url) (request : Request) (reply : Reply) :
    (∃ records, reply.Carries records) ∨ ∃ text, reply.Meets url request text := by
  cases reply with
  | unanswered said => exact .inr ⟨_, .unanswered said⟩
  | answered status body said =>
    by_cases h : 200 ≤ status ∧ status < 300
    · cases body with
      | none => exact .inr ⟨_, .unread h⟩
      | some body =>
        cases hbody : Json.parse? body with
        | none => exact .inr ⟨_, .undecodable h hbody⟩
        | some value =>
          by_cases hvalue : ∃ records, value.HoldsRecords records
          · obtain ⟨records, hvalue⟩ := hvalue
            exact .inl ⟨records, status, body, said, value, rfl, h, hbody, hvalue⟩
          · exact .inr ⟨_, .misshapen h hbody (not_exists.mp hvalue)⟩
    · exact .inr ⟨_, .status h⟩

theorem Blames.exists_meets {reply : Reply} {status : Nat} {kind : FailureKind}
    (h : reply.Blames status kind) (url : Url) (request : Request) :
    ∃ text, reply.Meets url request text := by
  obtain ⟨⟨body, said, rfl⟩, hcause⟩ := h
  exact ⟨_, .status hcause.not_success⟩

end Reply

/-! ## What a fetch makes of a reply -/

namespace StoreClient

theorem recordsOf?_eq_some_iff {value : Json} {records : List Json} :
    recordsOf? value = some records ↔ value.HoldsRecords records := by
  constructor
  · intro h
    cases value with
    | array entries =>
      obtain rfl : entries = records := Option.some.inj h
      exact .inl rfl
    | object fields =>
      refine .inr ⟨fields, rfl, ?_⟩
      simp only [recordsOf?] at h
      split at h
      · rename_i entries hget
        rw [hget, Option.some.inj h]
      · cases h
    | _ => cases h
  · rintro (rfl | ⟨fields, rfl, hget⟩)
    · rfl
    · rw [recordsOf?, hget]

theorem recordsOf?_eq_none_iff {value : Json} :
    recordsOf? value = none ↔ ∀ records, ¬ value.HoldsRecords records := by
  simp only [Option.eq_none_iff_forall_ne_some, Ne, recordsOf?_eq_some_iff]

variable {url : Url} {request : Request} {reply : Reply}

/-- What a client makes of a reply to a request for records. -/
def answer (url : Url) (request : Request) (reply : Reply) : Except StoreError (List Json) :=
  (readReply url request reply).bind (readRecords url)

/-- What a fetch from a collection makes of a reply. -/
def outcome (url : Url) (request : Request) (reply : Reply) : Outcome :=
  ((answer url request reply).mapError StoreError.toFailure).map .array

theorem readReply_of_success {status : Nat} (h : 200 ≤ status ∧ status < 300)
    (body : Option String) (said : String) :
    readReply url request (.answered status body said) =
      match body.bind Json.parse? with
      | some value => .ok value
      | none => .error (.undecodable url.text said) := by
  exact if_pos (by simpa using h)

theorem readReply_of_not_success {status : Nat}
    (h : ¬ (200 ≤ status ∧ status < 300)) (body : Option String) (said : String) :
    readReply url request (.answered status body said) =
      .error (.status request.method.name url.text status (body.getD "")) := by
  rw [readReply, if_neg (by simpa using h)]

theorem outcome_of_carries {records : List Json} (h : reply.Carries records) :
    outcome url request reply = .ok (.array records) := by
  obtain ⟨status, body, said, value, rfl, hsuccess, hbody, hvalue⟩ := h
  have hrecords : recordsOf? value = some records := recordsOf?_eq_some_iff.mpr hvalue
  rw [outcome, answer, readReply_of_success hsuccess, Option.bind_some, hbody]
  simp only [Except.bind, readRecords, hrecords]
  rfl

section Posted

variable (hpost : request.method = .post)

include hpost

theorem outcome_of_not_success {status : Nat} (h : ¬ (200 ≤ status ∧ status < 300))
    (body : Option String) (said : String) :
    outcome url request (.answered status body said) =
      .error (StoreError.toFailure (.status "POST" url.text status (body.getD ""))) := by
  rw [outcome, answer, readReply_of_not_success h, hpost]
  rfl

/-- A status with a known cause makes a diagnosis that names the status and the address. -/
theorem outcome_of_blames {status : Nat} {kind : FailureKind} {text : String}
    (hblames : reply.Blames status kind) (h : reply.Meets url request text) :
    outcome url request reply = .error (.diagnosed ⟨kind, text, false,
      [("status", .int status), ("url", .text url.text)]⟩) := by
  obtain ⟨⟨body, said, rfl⟩, hcause⟩ := hblames
  cases h with
  | status h =>
    have hretry : kind.isRetryable = false := by cases kind <;> rfl
    rw [outcome_of_not_success hpost h, StoreError.toFailure, StoreError.classifyStatus,
      StoreError.statusKind?_eq_some_iff.mpr hcause, ← hretry]
    rfl
  | unread h | undecodable h | misshapen h => exact absurd h hcause.not_success

/-- Any other error makes a failure that has nothing but its text. -/
theorem outcome_of_not_blames {text : String} (h : reply.Meets url request text)
    (hblames : ∀ status kind, ¬ reply.Blames status kind) :
    outcome url request reply = .error (.undiagnosed text) := by
  cases h with
  | unanswered said => rfl
  | @status status body said h =>
    have hcause : StoreError.statusKind? status = none := by
      rw [Option.eq_none_iff_forall_ne_some]
      intro kind hkind
      exact hblames status kind ⟨⟨body, said, rfl⟩, StoreError.statusKind?_eq_some_iff.mp hkind⟩
    rw [outcome_of_not_success hpost h, StoreError.toFailure, StoreError.classifyStatus, hcause]
    rfl
  | unread h =>
    rw [outcome, answer, readReply_of_success h]
    rfl
  | undecodable h hbody =>
    rw [outcome, answer, readReply_of_success h, Option.bind_some, hbody]
    rfl
  | @misshapen status body said value h hbody hvalue =>
    have hrecords : recordsOf? value = none := recordsOf?_eq_none_iff.mpr hvalue
    rw [outcome, answer, readReply_of_success h, Option.bind_some, hbody]
    simp only [Except.bind, readRecords, hrecords]
    rfl

theorem exists_outcome_eq_ok_iff :
    (∃ value, outcome url request reply = .ok value) ↔ ∃ records, reply.Carries records := by
  constructor
  · rintro ⟨value, hvalue⟩
    rcases reply.carries_or_meets url request with hcarries | ⟨text, htext⟩
    · exact hcarries
    · by_cases hblames : ∃ status kind, reply.Blames status kind
      · obtain ⟨status, kind, hblames⟩ := hblames
        rw [outcome_of_blames hpost hblames htext] at hvalue
        cases hvalue
      · rw [outcome_of_not_blames hpost htext (by simpa using hblames)] at hvalue
        cases hvalue
  · rintro ⟨records, hrecords⟩
    exact ⟨_, outcome_of_carries hrecords⟩

theorem exists_outcome_diagnosed_iff :
    (∃ diagnosis, outcome url request reply = .error (.diagnosed diagnosis)) ↔
      ∃ status kind, reply.Blames status kind := by
  constructor
  · rintro ⟨diagnosis, hdiagnosis⟩
    by_contra hnone
    have hblames : ∀ status kind, ¬ reply.Blames status kind :=
      fun status kind h => hnone ⟨status, kind, h⟩
    rcases reply.carries_or_meets url request with ⟨records, hrecords⟩ | ⟨text, htext⟩
    · rw [outcome_of_carries hrecords] at hdiagnosis
      cases hdiagnosis
    · rw [outcome_of_not_blames hpost htext hblames] at hdiagnosis
      cases hdiagnosis
  · rintro ⟨status, kind, hblames⟩
    obtain ⟨text, htext⟩ := hblames.exists_meets url request
    exact ⟨_, outcome_of_blames hpost hblames htext⟩

/-- A reply that makes a failure of no kind settles nothing. -/
theorem not_settles_of_outcome (url : Url) (text : String)
    (h : outcome url request reply = .error (.undiagnosed text)) : ¬ reply.Settles := by
  rintro (hcarries | hblames)
  · obtain ⟨value, hvalue⟩ := (exists_outcome_eq_ok_iff hpost).mpr hcarries
    rw [h] at hvalue
    cases hvalue
  · obtain ⟨diagnosis, hdiagnosis⟩ := (exists_outcome_diagnosed_iff hpost).mpr hblames
    rw [h] at hdiagnosis
    cases hdiagnosis

end Posted

end StoreClient

/-! ## Deliveries -/

/-- What comes back for a request, and after how many milliseconds. -/
structure Delivery where
  millis : Nat
  reply : Reply

/-- The number of the last request, when there may be at most `most` of them unless this is zero:
the first one whose reply settles, or the last one allowed. Requests are numbered from one by words
of 32 bits. -/
def IsLastRequest (deliveries : Nat → Delivery) (most last : Nat) : Prop :=
  IsLeast {place | 1 ≤ place ∧ place < words32 ∧
    ((deliveries place).reply.Settles ∨ (0 < most ∧ place = most))} last

theorem isLastRequest_of_before {deliveries : Nat → Delivery} {most last : Nat} (hpos : 1 ≤ last)
    (hword : last < words32)
    (hends : (deliveries last).reply.Settles ∨ (0 < most ∧ last = most))
    (hbefore : ∀ place, 1 ≤ place → place < last →
      ¬ (deliveries place).reply.Settles ∧ place ≠ most) :
    IsLastRequest deliveries most last := by
  refine ⟨⟨hpos, hword, hends⟩, ?_⟩
  rintro place ⟨hplace, -, hstops⟩
  by_contra hlt
  obtain ⟨hsettles, hmost⟩ := hbefore place hplace (Nat.lt_of_not_le hlt)
  exact hstops.elim hsettles fun h => hmost h.2

/-- The exchange that makes deliveries one after another, counted from one. Its world remembers
the requests that were sent. -/
def Exchange.delivering (deliveries : Nat → Delivery) : Exchange (List Request) := fun request =>
  (Routine.transact fun _ sent => (sent.length + 1, sent ++ [request])).bind fun place =>
    (Routine.sleep (deliveries place).millis).map fun _ => (deliveries place).reply

/-- A query is one request, and its answer is read off the next delivery. -/
theorem StoreClient.run_find (deliveries : Nat → Delivery) (client : StoreClient)
    (collection : String) (query : CollectionQuery) (clock : Clock) (sent : List Request) :
    let url := client.endpoint [collection, "find"]
    let request := client.request .post url (some query.encode) none
    let delivery := deliveries (sent.length + 1)
    (client.find (.delivering deliveries) collection query).run clock sent =
      ⟨answer url request delivery.reply, ⟨clock.now + delivery.millis, clock.turn + 2⟩,
        sent ++ [request]⟩ := by
  intro url request delivery
  have hexchange : (Exchange.delivering deliveries request).run clock sent =
      ⟨delivery.reply, ⟨clock.now + delivery.millis, clock.turn + 2⟩, sent ++ [request]⟩ := by
    rw [Exchange.delivering, Routine.run_bind, Routine.run_transact, Routine.run_map,
      Routine.run_sleep]
  rw [find, Routine.run_map, send, Routine.run_map, hexchange]
  rfl

/-! ## The fetch -/

namespace Sources

variable {sources : Sources} {call : Call} {request : RecordRequest} {id collection : String}
variable {client : StoreClient}

/-- The request that a fetch sends. The credentials of the address are taken out of it, and stand
in for the token if there are any. -/
def sentRequest (client : StoreClient) (collection : String) (request : RecordRequest) : Request :=
  let url := client.endpoint [collection, "find"]
  { method := .post
    url := { url with username := "", password := "" }
    credential :=
      if url.username = "" ∧ url.password = "" then .bearer client.token
      else .basic url.username url.password
    body := some (CollectionQuery.encode
      ⟨normalizeIdFilter request.filter, request.limit, request.select⟩)
    millis := 30000 }

theorem request_eq_sentRequest (client : StoreClient) (collection : String)
    (request : RecordRequest) :
    client.request .post (client.endpoint [collection, "find"])
      (some (Source.collectionQuery request).encode) none =
        sentRequest client collection request := by
  simp only [StoreClient.request, StoreClient.credential, sentRequest, Source.collectionQuery,
    String.isEmpty_iff, Bool.and_eq_true]
  rfl

/-- What the attempts of a fetch come to when the given deliveries are made. -/
def fetchScript (client : StoreClient) (collection : String) (request : RecordRequest)
    (deliveries : Nat → Delivery) : Script := fun place =>
  ⟨(deliveries place).millis, StoreClient.outcome (client.endpoint [collection, "find"])
    (sentRequest client collection request) (deliveries place).reply⟩

/-- A fetch from a collection plays the script of its deliveries. -/
theorem plays_fetch (hdecoded : RecordRequest.decode (.object call.params) = .ok request)
    (hsource : sources.get? request.source = some (.collection id collection))
    (hclient : call.payload.storeClient = .ok client) {deliveries : Nat → Delivery}
    {options : AttemptOptions}
    (htime : ∀ place, (deliveries place).millis ≤ options.timeout.timerMillis) (start : Nat) :
    Engine.Plays (sources.fetchActivity (Payload.storeOr none (.delivering deliveries)) call)
      (fetchScript client collection request deliveries) options start 3
      fun n => List.replicate n (sentRequest client collection request) := by
  intro n clock _ limit history
  have hread : RecordRequest.ofCall call = .ok request := RecordRequest.ofCall_of_decoded hdecoded
  have hstore : call.payload.storeOr none (.delivering deliveries) =
      .ok (client.store (.delivering deliveries)) := by
    rw [Payload.storeOr, Payload.store, hclient]
    rfl
  have hrun : ∀ (clock : Clock) (sent : List Request),
      (sources.fetchActivity (Payload.storeOr none (.delivering deliveries)) call).run clock sent =
        ⟨(fetchScript client collection request deliveries (sent.length + 1)).outcome,
          ⟨clock.now + (deliveries (sent.length + 1)).millis, clock.turn + 2⟩,
          sent ++ [sentRequest client collection request]⟩ := by
    intro clock sent
    rw [Sources.fetchActivity, Registry.fetchActivity_of_registered hread hstore hsource,
      Routine.run_map, Source.fetch, StoreClient.store, Routine.run_map, StoreClient.run_find,
      request_eq_sentRequest]
    rfl
  have hin : ((Engine.inWorld (sources.fetchActivity
      (Payload.storeOr none (.delivering deliveries)) call)).run ⟨clock.now, clock.turn + 1⟩
        ⟨limit, history, List.replicate n (sentRequest client collection request)⟩) =
      ⟨(fetchScript client collection request deliveries (n + 1)).outcome,
        ⟨clock.now + (deliveries (n + 1)).millis, clock.turn + 3⟩,
        ⟨limit, history, List.replicate (n + 1) (sentRequest client collection request)⟩⟩ := by
    rw [Engine.run_inWorld, hrun, List.length_replicate, List.replicate_succ']
  have hnext := htime (n + 1)
  have hlasting : (fetchScript client collection request deliveries).lasting options (n + 1) =
      (deliveries (n + 1)).millis := min_eq_left hnext
  rw [Routine.run_timeout_of_le (by rw [hin]; exact Nat.add_le_add_left hnext _), hin, hlasting]
  rw [if_neg (by exact Nat.not_lt.mpr hnext)]

/-- Under a policy that retries no kind of failure, an attempt is the last one if its reply
carries records or has a status with a known cause, or if no more are allowed. -/
theorem isFinal_fetchScript_iff {deliveries : Nat → Delivery} {options : AttemptOptions}
    (hfinal : ∀ kind, kind ∈ options.retry.finalKinds)
    (htime : ∀ place, (deliveries place).millis ≤ options.timeout.timerMillis) (place : Nat) :
    (fetchScript client collection request deliveries).IsFinal options place ↔
      (deliveries place).reply.Settles ∨
        (0 < options.retry.maximumAttempts ∧ place = options.retry.maximumAttempts) := by
  have hverdict : (fetchScript client collection request deliveries).verdict options place =
      (fetchScript client collection request deliveries place).outcome :=
    if_neg (Nat.not_lt.mpr (htime place))
  have hpost : (sentRequest client collection request).method = .post := rfl
  simp only [Script.IsFinal, hverdict, hfinal, and_true, fetchScript,
    StoreClient.exists_outcome_eq_ok_iff hpost, StoreClient.exists_outcome_diagnosed_iff hpost,
    Reply.Settles, or_assoc]

/-- A fetch from a collection, under a policy that retries no kind of failure, when every attempt
ends in time. It sends the same request again and again, up to the first reply that carries records
or has a status with a known cause, or as often as there may be attempts. It ends with the records
of the last reply, with a diagnosis that names the status and the address, or with the text of the
error that the client met. If attempts are bounded, so is the number of requests. -/
theorem fetch_ends_with_last_reply (sources : Sources) (call : Call) (request : RecordRequest)
    (client : StoreClient) (id collection : String) (deliveries : Nat → Delivery)
    (options : AttemptOptions)
    (hdecoded : RecordRequest.decode (.object call.params) = .ok request)
    (hsource : sources.get? request.source = some (.collection id collection))
    (hclient : call.payload.storeClient = .ok client)
    (hfinal : ∀ kind, kind ∈ options.retry.finalKinds)
    (htime : ∀ place, (deliveries place).millis ≤ options.timeout.timerMillis)
    (clock : Clock) (limit : Nat) (history : List AttemptRecord) :
    let url := client.endpoint [collection, "find"]
    let sent := sentRequest client collection request
    let reply place := (deliveries place).reply
    let most := options.retry.maximumAttempts
    let activity := sources.fetchActivity (Payload.storeOr none (.delivering deliveries))
    let finish := (Engine.invoke activity call options).run clock ⟨limit, history, []⟩
    (∀ last, IsLastRequest deliveries most last →
      finish.state.world = List.replicate last sent ∧
      (∀ records, (reply last).Carries records → finish.value = .ok (.array records)) ∧
      (∀ status kind, (reply last).Blames status kind →
        ∃ text, (reply last).Meets url sent text ∧
          finish.value = .error (.diagnosed ⟨kind, text, false,
            [("status", .int status), ("url", .text url.text)]⟩)) ∧
      (¬ (reply last).Settles →
        ∃ text, (reply last).Meets url sent text ∧ finish.value = .error (.undiagnosed text))) ∧
    (0 < most → most < words32 → ∃ last ≤ most, IsLastRequest deliveries most last) := by
  intro url sent reply most activity finish
  have hends : ∀ last, IsLastRequest deliveries most last ↔
      (fetchScript client collection request deliveries).IsLast options last := by
    intro last
    simp only [Script.IsLast, isFinal_fetchScript_iff hfinal htime]
    rfl
  refine ⟨fun last hlast => ?_, fun hpos hmost => ?_⟩
  · have hpos : 1 ≤ last := hlast.1.1
    obtain ⟨n, rfl⟩ : ∃ n, last = n + 1 := ⟨last - 1, by omega⟩
    have hplays := plays_fetch hdecoded hsource hclient htime clock.now
    have hfinish := hplays.run_of_isLast call.activity limit history rfl ((hends _).mp hlast)
    have hvalue : finish.value = StoreClient.outcome url sent (reply (n + 1)) := by
      have hverdict : (fetchScript client collection request deliveries).verdict options (n + 1) =
          StoreClient.outcome url sent (reply (n + 1)) :=
        if_neg (Nat.not_lt.mpr (htime (n + 1)))
      rw [← hverdict]
      exact congrArg Finish.value hfinish
    refine ⟨congrArg (fun finish => finish.state.world) hfinish, ?_, ?_, ?_⟩
    · intro records hrecords
      exact hvalue.trans (StoreClient.outcome_of_carries hrecords)
    · intro status kind hblames
      obtain ⟨text, htext⟩ := hblames.exists_meets url sent
      exact ⟨text, htext, hvalue.trans (StoreClient.outcome_of_blames rfl hblames htext)⟩
    · intro hsettles
      obtain ⟨text, htext⟩ := ((reply (n + 1)).carries_or_meets url sent).resolve_left
        fun h => hsettles (.inl h)
      refine ⟨text, htext, hvalue.trans (StoreClient.outcome_of_not_blames rfl htext ?_)⟩
      exact fun status kind h => hsettles (.inr ⟨status, kind, h⟩)
  · obtain ⟨last, hle, hlast⟩ := Engine.exists_isLast_le
      (fetchScript client collection request deliveries) options hpos hmost
    exact ⟨last, hle, (hends last).mpr hlast⟩

/-- Three fetches from a store at one address. A busy store, a reply that does not come in time, a
body that is no document, and then two records under `results`: four requests are sent. A busy
store and then a missing document: two are sent. With no more than two attempts, no reply and then
a body that breaks off. -/
theorem fetch_ends_with_last_reply_three :
    let payload : Payload := { (default : Payload) with
      authToken := some "tok"
      config := ⟨some "http://[::1]:8080", some "http://[::1]:9000", []⟩ }
    let call : Call := ⟨payload, "ingest", "fetch", [("type", .text "document")]⟩
    let busy : Delivery := ⟨20, .answered 503 (some "busy") ""⟩
    let found : Nat → Delivery := fun place =>
      if place = 1 then busy
      else if place = 2 then ⟨30000, .unanswered fun _ => "operation timed out"⟩
      else if place = 3 then ⟨20, .answered 200 (some "[1") "EOF"⟩
      else ⟨20, .answered 200 (some "\x7b\"results\": [1, null]\x7d") ""⟩
    let missing : Nat → Delivery := fun place =>
      if place = 1 then busy else ⟨20, .answered 404 (some "gone") ""⟩
    let broken : Nat → Delivery := fun place =>
      if place = 1 then ⟨5, .unanswered fun _ => "connection refused"⟩
      else ⟨20, .answered 200 none "unexpected end of file"⟩
    let options (most : Nat) : AttemptOptions :=
      { AttemptOptions.standard with
        retry := { RetryPolicy.standard with maximumAttempts := most } }
    let finish (most : Nat) (deliveries : Nat → Delivery) :=
      (Engine.invoke (builtIn.fetchActivity (Payload.storeOr none (.delivering deliveries))) call
        (options most)).run ⟨0, 0⟩ ⟨256, [], []⟩
    let address := "http://[::1]:9000/api/v1/objects/find"
    (finish 0 found).value = .ok (.array [.int 1, .null]) ∧
      (finish 0 found).state.world.length = 4 ∧
      (∀ request ∈ (finish 0 found).state.world, request.method = .post ∧
        request.url.text = address ∧ request.millis = 30000) ∧
      (finish 10 missing).value = .error (.diagnosed ⟨.documentNotFound,
        "POST http://[::1]:9000/api/v1/objects/find returned 404: gone", false,
        [("status", .int 404), ("url", .text address)]⟩) ∧
      (finish 10 missing).state.world.length = 2 ∧
      (finish 2 broken).value = .error (.undiagnosed ("failed to decode response from " ++
        "http://[::1]:9000/api/v1/objects/find: unexpected end of file")) ∧
      (finish 2 broken).state.world.length = 2 := by
  intro payload call busy found missing broken options finish address
  let client : StoreClient :=
    ⟨⟨false, "", "", .v6 [0, 0, 0, 0, 0, 0, 0, 1], some 8080, [""], none, none⟩,
      ⟨false, "", "", .v6 [0, 0, 0, 0, 0, 0, 0, 1], some 9000, [""], none, none⟩, "tok"⟩
  let sent := sentRequest client "objects" ⟨"document", [], none, none⟩
  have hpost : sent.method = .post := rfl
  have hclient : payload.storeClient = .ok client := by decide +kernel
  have haddress : (client.endpoint ["objects", "find"]).text = address := by decide +kernel
  have hfinish (most : Nat) (deliveries : Nat → Delivery) : finish most deliveries =
      (Engine.invoke (builtIn.fetchActivity (Payload.storeOr none (.delivering deliveries))) call
        (options most)).run ⟨0, 0⟩ ⟨256, [], []⟩ := rfl
  -- The runs are not to be computed but to be told from the theorem.
  clear_value finish
  have hlimit : 30000 ≤ AttemptOptions.standard.timeout.timerMillis := by decide
  have hmade (most : Nat) (deliveries : Nat → Delivery)
      (htime : ∀ place, (deliveries place).millis ≤ 30000) {last : Nat}
      (hlast : IsLastRequest deliveries most last) :
      (finish most deliveries).state.world = List.replicate last sent ∧
        (∀ records, (deliveries last).reply.Carries records →
          (finish most deliveries).value = .ok (.array records)) ∧
        (∀ status kind, (deliveries last).reply.Blames status kind →
          ∃ text, (deliveries last).reply.Meets (client.endpoint ["objects", "find"]) sent text ∧
            (finish most deliveries).value = .error (.diagnosed ⟨kind, text, false,
              [("status", .int status),
                ("url", .text (client.endpoint ["objects", "find"]).text)]⟩)) ∧
        (¬ (deliveries last).reply.Settles →
          ∃ text, (deliveries last).reply.Meets (client.endpoint ["objects", "find"]) sent text ∧
            (finish most deliveries).value = .error (.undiagnosed text)) := by
    rw [hfinish]
    exact (fetch_ends_with_last_reply builtIn call ⟨"document", [], none, none⟩ client "document"
      "objects" deliveries (options most) rfl rfl hclient FailureKind.mem_all
      (fun place => le_trans (htime place) hlimit) ⟨0, 0⟩ 256 []).1 last hlast
  have hbusy : ¬ busy.reply.Settles :=
    StoreClient.not_settles_of_outcome hpost client.storeUrl
      "POST http://[::1]:9000/ returned 503: busy" (by decide +kernel)
  obtain ⟨hfound, hrecords⟩ : (finish 0 found).state.world = List.replicate 4 sent ∧
      (finish 0 found).value = .ok (.array [.int 1, .null]) := by
    have hparse : Json.parse? "\x7b\"results\": [1, null]\x7d" =
        some (.object [("results", .array [.int 1, .null])]) := by decide +kernel
    have hcarries : (found 4).reply.Carries [.int 1, .null] :=
      ⟨200, _, _, _, rfl, by decide, hparse, .inr ⟨_, rfl, rfl⟩⟩
    have hlast : IsLastRequest found 0 4 := by
      refine isLastRequest_of_before (by decide) (by decide) (.inl (.inl ⟨_, hcarries⟩)) ?_
      intro place hpos hlt
      refine ⟨?_, by omega⟩
      obtain rfl | rfl | rfl : place = 1 ∨ place = 2 ∨ place = 3 := by omega
      · exact hbusy
      · exact StoreClient.not_settles_of_outcome hpost client.storeUrl
          "request to http://[::1]:9000/ failed: operation timed out" (by decide +kernel)
      · exact StoreClient.not_settles_of_outcome hpost client.storeUrl
          "failed to decode response from http://[::1]:9000/: EOF" (by decide +kernel)
    have htime : ∀ place, (found place).millis ≤ 30000 := by
      intro place
      simp only [found]
      split_ifs <;> decide
    obtain ⟨hworld, hvalue, -⟩ := hmade 0 found htime hlast
    exact ⟨hworld, hvalue _ hcarries⟩
  obtain ⟨hmissing, hgone⟩ : (finish 10 missing).state.world = List.replicate 2 sent ∧
      (finish 10 missing).value = .error (.diagnosed ⟨.documentNotFound,
        "POST http://[::1]:9000/api/v1/objects/find returned 404: gone", false,
        [("status", .int 404), ("url", .text address)]⟩) := by
    have hblames : (missing 2).reply.Blames 404 .documentNotFound := ⟨⟨_, _, rfl⟩, .notFound⟩
    have hlast : IsLastRequest missing 10 2 := by
      refine isLastRequest_of_before (by decide) (by decide) (.inl (.inr ⟨_, _, hblames⟩)) ?_
      intro place hpos hlt
      obtain rfl : place = 1 := by omega
      exact ⟨hbusy, by decide⟩
    have htime : ∀ place, (missing place).millis ≤ 30000 := by
      intro place
      simp only [missing]
      split_ifs <;> decide
    obtain ⟨hworld, -, hvalue, -⟩ := hmade 10 missing htime hlast
    obtain ⟨text, hmeets, hvalue⟩ := hvalue 404 _ hblames
    obtain rfl : "POST http://[::1]:9000/api/v1/objects/find returned 404: gone" = text := by
      cases hmeets with
      | status => rw [haddress]; rfl
      | undecodable h | misshapen h => exact absurd h (by decide)
    rw [haddress] at hvalue
    exact ⟨hworld, hvalue⟩
  obtain ⟨hbroken, hunread⟩ : (finish 2 broken).state.world = List.replicate 2 sent ∧
      (finish 2 broken).value = .error (.undiagnosed ("failed to decode response from " ++
        "http://[::1]:9000/api/v1/objects/find: unexpected end of file")) := by
    have hrefused : ¬ (broken 1).reply.Settles :=
      StoreClient.not_settles_of_outcome hpost client.storeUrl
        "request to http://[::1]:9000/ failed: connection refused" (by decide +kernel)
    have hunread : ¬ (broken 2).reply.Settles :=
      StoreClient.not_settles_of_outcome hpost client.storeUrl
        "failed to decode response from http://[::1]:9000/: unexpected end of file"
        (by decide +kernel)
    have hlast : IsLastRequest broken 2 2 := by
      refine isLastRequest_of_before (by decide) (by decide) (.inr ⟨by decide, rfl⟩) ?_
      intro place hpos hlt
      obtain rfl : place = 1 := by omega
      exact ⟨hrefused, by decide⟩
    have htime : ∀ place, (broken place).millis ≤ 30000 := by
      intro place
      simp only [broken]
      split_ifs <;> decide
    obtain ⟨hworld, -, -, hvalue⟩ := hmade 2 broken htime hlast
    obtain ⟨text, hmeets, hvalue⟩ := hvalue hunread
    obtain rfl : "failed to decode response from " ++
        "http://[::1]:9000/api/v1/objects/find: unexpected end of file" = text := by
      cases hmeets with
      | status h => exact absurd (by decide) h
      | unread => rw [haddress]; rfl
    exact ⟨hworld, hvalue⟩
  refine ⟨hrecords, by rw [hfound, List.length_replicate], ?_, hgone,
    by rw [hmissing, List.length_replicate], hunread, by rw [hbroken, List.length_replicate]⟩
  intro request hrequest
  rw [hfound] at hrequest
  obtain rfl := List.eq_of_mem_replicate hrequest
  exact ⟨rfl, by decide +kernel, rfl⟩

end Sources

end ActivityFlow
