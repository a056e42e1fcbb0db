import ActivityFlow.Groups.Codec
import ActivityFlow.Proofs.Document.Failure

/-!
# Retry settings and histories survive their documents

The spans of a policy that was read can be written, and its final kinds are in the order of
the taxonomy, so that reading them orders nothing. The standard settings, which stand for
those left out, are among the policies that can be written.
-/
namespace ActivityFlow

open Decoding

namespace RetryPolicy

/-- Kinds in the order of the taxonomy, each of them once. -/
def InOrder (kinds : List FailureKind) : Prop := orderKinds kinds = kinds

/-- A policy that can be written. -/
structure Valid (p : RetryPolicy) : Prop where
  initial : p.initialInterval.Writable
  attempts : p.maximumAttempts < words32
  maximum : p.maximumInterval.Writable
  kinds : InOrder p.finalKinds

theorem valid_standard : standard.Valid := ⟨Or.inl rfl, by decide, Or.inl rfl, rfl⟩

theorem inOrder_orderKinds (kinds : List FailureKind) : InOrder (orderKinds kinds) := by
  refine List.filter_congr ?_
  intro kind _
  have hmem : kind ∈ orderKinds kinds ↔ kind ∈ kinds := by
    simp [orderKinds, FailureKind.mem_all]
  rw [Bool.eq_iff_iff, List.contains_iff_mem, List.contains_iff_mem, hmem]

theorem yields_decodeKinds (source : Decoding.Source) : Yields (decodeKinds source) InOrder := by
  intro v kinds h
  obtain ⟨read, -, rfl⟩ := map_eq_ok.mp h
  exact inOrder_orderKinds read

theorem faithful_decodeKinds (source : Decoding.Source) :
    Faithful (decodeKinds source) (fun kinds => .array (kinds.map FailureKind.encode))
      InOrder where
  sound := (yields_decodeKinds source).sound
  wellFormed kinds _ := (FailureKind.faithful source).list.wellFormed kinds fun _ _ => trivial
  decode_encode kinds h := by
    rw [decodeKinds, (FailureKind.faithful source).list.decode_encode kinds fun _ _ => trivial,
      map_ok, h]

theorem valid_of_ofFields {source : Decoding.Source} {fields : Fields} {p : RetryPolicy}
    (h : ofFields source fields = .ok p) : p.Valid := by
  simp only [ofFields, bind_eq_ok, pure_eq_ok] at h
  obtain ⟨_, -, initial, hinitial, attempts, hattempts, maximum, hmaximum, kinds, hkinds, rfl⟩ := h
  exact ⟨valid_getD (yields_asSpan.field? hinitial) valid_standard.initial,
    valid_getD (yields_asWord32.field? hattempts) valid_standard.attempts,
    valid_getD (yields_asSpan.field? hmaximum) valid_standard.maximum,
    valid_getD ((yields_decodeKinds source).field? hkinds) valid_standard.kinds⟩

theorem valid_of_ofItems {source : Decoding.Source} {items : List Json} {p : RetryPolicy}
    (h : ofItems source items = .ok p) : p.Valid := by
  simp only [ofItems, bind_eq_ok, pure_eq_ok] at h
  obtain ⟨initial, hinitial, _, -, attempts, hattempts, maximum, hmaximum, kinds, hkinds, _, -,
    rfl⟩ := h
  exact ⟨yields_asSpan.itemD valid_standard.initial hinitial,
    yields_asWord32.itemD valid_standard.attempts hattempts,
    yields_asSpan.itemD valid_standard.maximum hmaximum,
    (yields_decodeKinds source).itemD valid_standard.kinds hkinds⟩

theorem yields_decode (source : Decoding.Source) : Yields (decode source) Valid :=
  yields_record "RetryPolicy" (fun _ _ => valid_of_ofFields) fun _ _ => valid_of_ofItems

def toFields (p : RetryPolicy) : Fields :=
  [("backoff_coefficient", .float p.coefficient), ("initial_interval", p.initialInterval.encode),
    ("maximum_attempts", .int p.maximumAttempts), ("maximum_interval", p.maximumInterval.encode),
    ("non_retryable_error_kinds", .array (p.finalKinds.map FailureKind.encode))]

theorem toFields_wellFormed {p : RetryPolicy} (h : p.Valid) : p.toFields.WellFormed :=
  .of_keys ["backoff_coefficient", "initial_interval", "maximum_attempts", "maximum_interval",
    "non_retryable_error_kinds"] rfl (by decide)
    ⟨.float _, .text _, faithful_asWord32.wellFormed _ h.attempts, .text _,
      (faithful_decodeKinds .direct).wellFormed _ h.kinds, trivial⟩

theorem ofFields_of_includes (source : Decoding.Source) {fields : Fields} {p : RetryPolicy}
    (h : p.Valid) (hinc : Fields.Includes fields p.toFields) : ofFields source fields = .ok p := by
  have hcoefficient := faithful_asNumber.field? hinc "backoff_coefficient" p.coefficient
    (by simp [toFields]) trivial
  have hinitial := faithful_asSpan.field? hinc "initial_interval" p.initialInterval
    (by simp [toFields]) h.initial
  have hattempts := faithful_asWord32.field? hinc "maximum_attempts" p.maximumAttempts
    (by simp [toFields]) h.attempts
  have hmaximum := faithful_asSpan.field? hinc "maximum_interval" p.maximumInterval
    (by simp [toFields]) h.maximum
  have hkinds := (faithful_decodeKinds source).field? hinc "non_retryable_error_kinds" p.finalKinds
    (by simp [toFields]) h.kinds
  rw [ofFields, hcoefficient, hinitial, hattempts, hmaximum, hkinds]
  rfl

theorem faithful (source : Decoding.Source) : Faithful (decode source) encode Valid :=
  faithful_record "RetryPolicy" (fun _ _ _ => valid_of_ofFields) (fun _ _ _ => valid_of_ofItems)
    (fun _ => toFields_wellFormed) fun _ h => ofFields_of_includes source h
      (Fields.includes_self (toFields_wellFormed h).ascending.nodup)

end RetryPolicy

namespace AttemptOptions

/-- Options that can be written. -/
structure Valid (o : AttemptOptions) : Prop where
  timeout : o.timeout.Writable
  retry : o.retry.Valid

theorem valid_standard : standard.Valid := ⟨Or.inl rfl, RetryPolicy.valid_standard⟩

theorem valid_of_ofFields {source : Decoding.Source} {fields : Fields} {o : AttemptOptions}
    (h : ofFields source fields = .ok o) : o.Valid := by
  simp only [ofFields, bind_eq_ok, pure_eq_ok] at h
  obtain ⟨retry, hretry, timeout, htimeout, rfl⟩ := h
  exact ⟨valid_getD (yields_asSpan.field? htimeout) valid_standard.timeout,
    valid_getD ((RetryPolicy.yields_decode source).field? hretry) valid_standard.retry⟩

theorem valid_of_ofItems {source : Decoding.Source} {items : List Json} {o : AttemptOptions}
    (h : ofItems source items = .ok o) : o.Valid := by
  simp only [ofItems, bind_eq_ok, pure_eq_ok] at h
  obtain ⟨timeout, htimeout, retry, hretry, _, -, rfl⟩ := h
  exact ⟨yields_asSpan.itemD valid_standard.timeout htimeout,
    (RetryPolicy.yields_decode source).itemD valid_standard.retry hretry⟩

theorem toFields_wellFormed {o : AttemptOptions} (h : o.Valid) : Fields.WellFormed o.toFields :=
  .of_keys ["retry", "start_to_close_timeout"] rfl (by decide)
    ⟨(RetryPolicy.faithful .direct).wellFormed _ h.retry, .text _, trivial⟩

theorem ofFields_of_includes {source : Decoding.Source} {fields : Fields} {o : AttemptOptions}
    (h : o.Valid) (hinc : Fields.Includes fields o.toFields) : ofFields source fields = .ok o := by
  have hretry := (RetryPolicy.faithful source).field? hinc "retry" o.retry (by simp [toFields])
    h.retry
  have htimeout := faithful_asSpan.field? hinc "start_to_close_timeout" o.timeout
    (by simp [toFields]) h.timeout
  rw [ofFields, hretry, htimeout]
  rfl

theorem faithful (source : Decoding.Source) : Faithful (decode source) encode Valid :=
  faithful_record "ActivityOptions" (fun _ _ _ => valid_of_ofFields) (fun _ _ _ => valid_of_ofItems)
    (fun _ => toFields_wellFormed) fun _ h =>
      ofFields_of_includes h (Fields.includes_self (toFields_wellFormed h).ascending.nodup)

end AttemptOptions

namespace Group

/-- A group whose options can be written. -/
def Valid (g : Group) : Prop := g.options.Valid

theorem valid_of_ofFields {fields : Fields} {g : Group} (h : ofFields fields = .ok g) :
    g.Valid := by
  simp only [ofFields, bind_eq_ok, pure_eq_ok] at h
  obtain ⟨_, -, options, hoptions, rfl⟩ := h
  exact AttemptOptions.valid_of_ofFields hoptions

def toFields (g : Group) : Fields :=
  if g.activities.isEmpty then g.options.toFields
  else ("activities", .array (g.activities.map .text)) :: g.options.toFields

theorem toFields_wellFormed {g : Group} (h : g.Valid) : g.toFields.WellFormed := by
  have hoptions := AttemptOptions.toFields_wellFormed h
  rw [toFields]
  by_cases hempty : g.activities.isEmpty = true
  · rw [if_pos hempty]
    exact hoptions
  · rw [if_neg hempty]
    exact .of_keys ["activities", "retry", "start_to_close_timeout"] rfl (by decide)
      ⟨faithful_asText.list.wellFormed _ fun _ _ => trivial,
        (RetryPolicy.faithful .direct).wellFormed _ h.retry, .text _, trivial⟩

/-- A list of activities that was left out is read as the empty one. -/
theorem ofFields_toFields {g : Group} (h : g.Valid) : ofFields g.toFields = .ok g := by
  have hself := Fields.includes_self (toFields_wellFormed h).ascending.nodup
  obtain ⟨options, activities⟩ := g
  cases activities with
  | nil =>
    have hactivities : field? (toFields ⟨options, []⟩) "activities" (asList asText) = .ok none :=
      rfl
    rw [ofFields, hactivities, ok_bind, AttemptOptions.ofFields_of_includes h hself]
    rfl
  | cons first rest =>
    have hactivities := faithful_asText.list.field? hself "activities" (first :: rest)
      (by simp [toFields]) fun _ _ => trivial
    have hoptions : Fields.Includes (toFields ⟨options, first :: rest⟩) options.toFields :=
      fun e he => hself e (List.mem_cons_of_mem _ he)
    rw [ofFields, hactivities, ok_bind, AttemptOptions.ofFields_of_includes h hoptions]
    rfl

theorem faithful : Faithful decode encode Valid :=
  faithful_openRecord "GroupConfig" (fun _ _ _ => valid_of_ofFields)
    (fun _ => toFields_wellFormed) fun _ => ofFields_toFields

end Group

namespace Groups

/-- Groups under ascending names that can be written. -/
def Valid (groups : Groups) : Prop := Fields.Ascending groups ∧ ∀ e ∈ groups, e.2.Valid

theorem valid_nil : Valid [] := ⟨List.Pairwise.nil, by simp⟩

theorem faithful : Faithful decode encode Valid := by
  have hnamed := Group.faithful.named
  refine faithful_record "EngineConfig" ?_ ?_ ?_ ?_
  · intro fields groups hfields h
    simp only [bind_eq_ok, pure_eq_ok] at h
    obtain ⟨o, ho, rfl⟩ := h
    exact valid_getD (hnamed.sound.field? hfields ho) valid_nil
  · intro items groups hitems h
    simp only [bind_eq_ok, pure_eq_ok] at h
    obtain ⟨found, hfound, _, -, rfl⟩ := h
    exact hnamed.sound.itemD hitems valid_nil hfound
  · intro groups h
    exact .of_keys ["groups"] rfl (by decide) ⟨hnamed.wellFormed groups h, trivial⟩
  · intro groups h
    have hread := hnamed.field? (Fields.includes_self (by simp)) "groups" groups
      (List.mem_singleton_self _) h
    rw [hread]
    rfl

end Groups

theorem AttemptStage.faithful (source : Decoding.Source) :
    Faithful (AttemptStage.decode source) AttemptStage.encode fun _ => True :=
  faithful_asChoice source fun stage => by cases stage <;> rfl

namespace AttemptRecord

/-- A history whose attempts are counted by a word of 32 bits. -/
def Valid (r : AttemptRecord) : Prop := r.attempts < words32

theorem valid_of_ofFields {fields : Fields} {r : AttemptRecord} (hfields : fields.WellFormed)
    (h : ofFields fields = .ok r) : r.Valid := by
  simp only [ofFields, bind_eq_ok, pure_eq_ok, required_eq_ok] at h
  obtain ⟨_, -, _, hattempts, _, -, _, -, attempts, rfl, _, -, rfl⟩ := h
  exact faithful_asWord32.sound.field? hfields hattempts attempts rfl

theorem valid_of_ofItems {items : List Json} {r : AttemptRecord}
    (hitems : ∀ v ∈ items, v.WellFormed) (h : ofItems items = .ok r) : r.Valid := by
  simp only [ofItems, bind_eq_ok, pure_eq_ok] at h
  obtain ⟨_, -, attempts, hattempts, _, -, _, -, rfl⟩ := h
  exact faithful_asWord32.sound.item hitems hattempts

def toFields (r : AttemptRecord) : Fields :=
  [("activity", .text r.activity), ("attempts", .int r.attempts),
    ("transitions", .array (r.stages.map AttemptStage.encode))]

theorem toFields_wellFormed {r : AttemptRecord} (h : r.Valid) : r.toFields.WellFormed :=
  .of_keys ["activity", "attempts", "transitions"] rfl (by decide)
    ⟨.text _, faithful_asWord32.wellFormed _ h,
      (AttemptStage.faithful .direct).list.wellFormed _ fun _ _ => trivial, trivial⟩

theorem ofFields_toFields {r : AttemptRecord} (h : r.Valid) : ofFields r.toFields = .ok r := by
  have hinc := Fields.includes_self (toFields_wellFormed h).ascending.nodup
  have hactivity := faithful_asText.field? hinc "activity" r.activity (by simp [toFields]) trivial
  have hattempts := faithful_asWord32.field? hinc "attempts" r.attempts
    (by simp [toFields]) h
  have hstages := (AttemptStage.faithful .direct).list.field? hinc "transitions" r.stages
    (by simp [toFields]) fun _ _ => trivial
  rw [ofFields, hactivity, hattempts, hstages]
  rfl

theorem faithful : Faithful decode encode Valid :=
  faithful_record "AttemptTracker" (fun _ _ => valid_of_ofFields) (fun _ _ => valid_of_ofItems)
    (fun _ => toFields_wellFormed) fun _ => ofFields_toFields

end AttemptRecord

end ActivityFlow
