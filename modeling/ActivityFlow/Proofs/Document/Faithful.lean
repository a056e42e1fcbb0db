import ActivityFlow.Retry.Codec
import ActivityFlow.Workflow.Codec
import ActivityFlow.Proofs.Json.WellFormed
import ActivityFlow.Proofs.Span.Format

/-!
# Faithful decoders

A decoder is faithful to an encoder if what it reads from a well-formed document is valid,
and if every valid value is encoded as a well-formed document from which it is read again.
Faithfulness of a record follows from that of its parts: an entry that is left out stands
for a valid default, and an entry that is written is found under its key.
-/
namespace ActivityFlow

namespace Decoding

variable {α β ε : Type}

theorem bind_eq_ok {x : Except ε α} {f : α → Except ε β} {b : β} :
    x >>= f = .ok b ↔ ∃ a, x = .ok a ∧ f a = .ok b := by
  cases x with
  | error e => simp [bind, Except.bind]
  | ok a => simp [bind, Except.bind]

theorem map_eq_ok {x : Except ε α} {f : α → β} {b : β} :
    f <$> x = .ok b ↔ ∃ a, x = .ok a ∧ f a = b := by
  cases x with
  | error e => simp [Functor.map, Except.map]
  | ok a => simp [Functor.map, Except.map]

theorem pure_eq_ok {a b : α} : (pure a : Except ε α) = .ok b ↔ a = b := by
  simp [pure, Except.pure]

theorem ok_bind (a : α) (f : α → Except ε β) : (Except.ok a >>= f) = f a := rfl

theorem map_ok (a : α) (f : α → β) : (f <$> (Except.ok a : Except ε α)) = .ok (f a) := rfl

theorem required_eq_ok {key : String} {value : Option α} {a : α} :
    required key value = .ok a ↔ value = some a := by
  cases value with
  | none => simp [required]
  | some v => simp [required]

/-- What a decoder reads from a well-formed document is valid. -/
def Sound (decode : Json → Result α) (Valid : α → Prop) : Prop :=
  ∀ v x, v.WellFormed → decode v = .ok x → Valid x

/-- What a decoder reads is valid, whether the document is well-formed or not. -/
def Yields (decode : Json → Result α) (Valid : α → Prop) : Prop :=
  ∀ v x, decode v = .ok x → Valid x

theorem Yields.sound {decode : Json → Result α} {Valid : α → Prop} (h : Yields decode Valid) :
    Sound decode Valid :=
  fun v x _ hread => h v x hread

/-- A decoder reads valid values, and reads again what the encoder writes for them. -/
structure Faithful (decode : Json → Result α) (encode : α → Json) (Valid : α → Prop) : Prop where
  sound : Sound decode Valid
  wellFormed : ∀ x, Valid x → (encode x).WellFormed
  decode_encode : ∀ x, Valid x → decode (encode x) = .ok x

/-- Encoding what was decoded and decoding it again changes nothing. -/
theorem Faithful.round_trip {decode : Json → Result α} {encode : α → Json} {Valid : α → Prop}
    (h : Faithful decode encode Valid) {v : Json} {x : α} (hv : v.WellFormed)
    (hx : decode v = .ok x) : (encode x).WellFormed ∧ decode (encode x) = .ok x :=
  ⟨h.wellFormed x (h.sound v x hv hx), h.decode_encode x (h.sound v x hv hx)⟩

/-! ## Plain values -/

theorem faithful_asText : Faithful asText .text fun _ => True where
  sound _ _ _ _ := trivial
  wellFormed s _ := .text s
  decode_encode _ _ := rfl

theorem faithful_asBool : Faithful asBool .bool fun _ => True where
  sound _ _ _ _ := trivial
  wellFormed b _ := .bool b
  decode_encode _ _ := rfl

theorem faithful_asNumber : Faithful asNumber .float fun _ => True where
  sound _ _ _ _ := trivial
  wellFormed x _ := .float x
  decode_encode _ _ := rfl

theorem yields_asWhole (limit : Nat) (expected : Shape) :
    Yields (asWhole limit expected) (· < limit) := by
  intro v n hread
  cases v with
  | int i =>
    rw [asWhole] at hread
    by_cases hi : 0 ≤ i ∧ i < limit
    · rw [if_pos hi] at hread
      obtain rfl := Except.ok.inj hread
      omega
    · rw [if_neg hi] at hread
      cases hread
  | null => cases hread
  | bool b => cases hread
  | float x => cases hread
  | text s => cases hread
  | array items => cases hread
  | object fields => cases hread

theorem faithful_asWhole {limit : Nat} (h : limit ≤ words64) (expected : Shape) :
    Faithful (asWhole limit expected) (fun n : Nat => .int n) (· < limit) where
  sound := (yields_asWhole limit expected).sound
  wellFormed n hn := .nat (Nat.lt_of_lt_of_le hn h)
  decode_encode n hn := by
    have hrange : (0 : Int) ≤ n ∧ (n : Int) < limit := by omega
    rw [asWhole, if_pos hrange, Int.toNat_natCast]

theorem yields_asWord32 : Yields asWord32 (· < words32) := yields_asWhole words32 .word32

theorem faithful_asWord32 : Faithful asWord32 (fun n : Nat => .int n) (· < words32) :=
  faithful_asWhole (by decide) .word32

theorem faithful_asWord64 : Faithful asWord64 (fun n : Nat => .int n) (· < words64) :=
  faithful_asWhole (Nat.le_refl _) .word64

theorem faithful_asCount : Faithful asCount (fun n : Nat => .int n) (· < words64) :=
  faithful_asWhole (Nat.le_refl _) .count

theorem faithful_asFields : Faithful asFields .object Fields.WellFormed where
  sound := by
    intro v fields hv hread
    cases v with
    | object entries =>
      obtain rfl := Except.ok.inj hread
      exact hv
    | null => cases hread
    | bool b => cases hread
    | int n => cases hread
    | float x => cases hread
    | text s => cases hread
    | array items => cases hread
  wellFormed _ h := h
  decode_encode _ _ := rfl

theorem yields_asSpan : Yields asSpan Span.Writable := by
  intro v d hread
  cases v with
  | int n =>
    rw [asSpan] at hread
    split at hread
    · next d' hd =>
      obtain rfl := Except.ok.inj hread
      by_cases hn : 0 ≤ n
      · rw [if_pos hn] at hd
        exact Span.writable_of_ofSeconds? hd
      · rw [if_neg hn] at hd
        cases hd
    · cases hread
  | text s =>
    rw [asSpan] at hread
    split at hread
    · next d' hd =>
      obtain rfl := Except.ok.inj hread
      exact Span.writable_of_parse? hd
    · cases hread
  | null => cases hread
  | bool b => cases hread
  | float x => cases hread
  | array items => cases hread
  | object fields => cases hread

theorem faithful_asSpan : Faithful asSpan Span.encode Span.Writable where
  sound := yields_asSpan.sound
  wellFormed d _ := .text d.format
  decode_encode d hd := by
    rw [Span.encode, asSpan, Span.parse?_format hd]

/-- Choices are read by the names under which they are written. -/
theorem faithful_asChoice {choices : List (String × α)} {tag : α → String}
    (source : Decoding.Source)
    (h : ∀ a, named choices (tag a) = .ok a) :
    Faithful (asChoice choices source) (fun a => .text (tag a)) fun _ => True where
  sound _ _ _ _ := trivial
  wellFormed a _ := .text (tag a)
  decode_encode a _ := h a

/-! ## Values made of others -/

section Compound

variable {decode : Json → Result α} {encode : α → Json} {Valid : α → Prop}

theorem Sound.optional (h : Sound decode Valid) :
    Sound (asOptional decode) fun o => ∀ a ∈ o, Valid a := by
  intro v o hv hread a ha
  obtain rfl := Option.mem_def.mp ha
  have hmap : some <$> decode v = .ok (some a) := by
    cases v with
    | null => cases hread
    | bool b => exact hread
    | int n => exact hread
    | float x => exact hread
    | text s => exact hread
    | array items => exact hread
    | object fields => exact hread
  obtain ⟨b, hb, hsome⟩ := map_eq_ok.mp hmap
  obtain rfl := Option.some.inj hsome
  exact h v b hv hb

/-- A text that may be missing is written as null when it is. -/
theorem faithful_asOptionalText :
    Faithful (asOptional asText) ServiceSettings.encodeText? fun _ => True where
  sound _ _ _ _ := trivial
  wellFormed o _ := by
    cases o with
    | none => exact .null
    | some s => exact .text s
  decode_encode o _ := by
    cases o with
    | none => rfl
    | some s => rfl

theorem mem_of_mapM_eq_ok {f : α → Result β} {xs : List α} {ys : List β}
    (h : xs.mapM f = .ok ys) {y : β} (hy : y ∈ ys) : ∃ x ∈ xs, f x = .ok y := by
  induction xs generalizing ys with
  | nil =>
    rw [List.mapM_nil, pure_eq_ok] at h
    subst h
    cases hy
  | cons x rest ih =>
    simp only [List.mapM_cons, bind_eq_ok, pure_eq_ok] at h
    obtain ⟨first, hfirst, later, hlater, rfl⟩ := h
    rcases List.mem_cons.mp hy with rfl | hy
    · exact ⟨x, List.mem_cons_self .., hfirst⟩
    · obtain ⟨z, hz, heq⟩ := ih hlater hy
      exact ⟨z, List.mem_cons_of_mem _ hz, heq⟩

theorem mapM_map_eq_ok {f : α → Result β} {g : β → α} {ys : List β}
    (h : ∀ y ∈ ys, f (g y) = .ok y) : (ys.map g).mapM f = .ok ys := by
  induction ys with
  | nil => rfl
  | cons y rest ih =>
    rw [List.map_cons, List.mapM_cons, h y (List.mem_cons_self ..),
      ih fun z hz => h z (List.mem_cons_of_mem _ hz)]
    rfl

theorem Faithful.list (h : Faithful decode encode Valid) :
    Faithful (asList decode) (fun xs => .array (xs.map encode)) fun xs => ∀ x ∈ xs, Valid x where
  sound := by
    intro v xs hv hread x hx
    cases hv with
    | array items_wellFormed =>
      obtain ⟨item, hitem, hdecode⟩ := mem_of_mapM_eq_ok hread hx
      exact h.sound item x (items_wellFormed item hitem) hdecode
    | null => cases hread
    | bool b => cases hread
    | int _ _ => cases hread
    | float x => cases hread
    | text s => cases hread
    | object _ _ => cases hread
  wellFormed xs hxs := by
    refine .array ?_
    intro v hv
    obtain ⟨x, hx, rfl⟩ := List.mem_map.mp hv
    exact h.wellFormed x (hxs x hx)
  decode_encode xs hxs := mapM_map_eq_ok fun x hx => h.decode_encode x (hxs x hx)

theorem ascending_map_encode {xs : List (String × α)} (h : Fields.Ascending xs) :
    Fields.Ascending (xs.map fun e => (e.1, encode e.2)) := by
  rw [Fields.Ascending, List.map_map]
  exact h

/-- Named values are read in the order of their names, and written in it. -/
theorem Faithful.named (h : Faithful decode encode Valid) :
    Faithful (asNamed decode)
      (fun xs => .object (Fields.ofPairs (xs.map fun e => (e.1, encode e.2))))
      fun xs => Fields.Ascending xs ∧ ∀ e ∈ xs, Valid e.2 where
  sound := by
    intro v xs hv hread
    cases hv with
    | @object fields ascending values_wellFormed =>
      have hnames : xs.map Prod.fst = fields.map Prod.fst := by
        clear ascending values_wellFormed
        rw [asNamed] at hread
        induction fields generalizing xs with
        | nil =>
          rw [List.mapM_nil, pure_eq_ok] at hread
          subst hread
          rfl
        | cons e rest ih =>
          simp only [List.mapM_cons, bind_eq_ok, pure_eq_ok, map_eq_ok] at hread
          obtain ⟨first, ⟨a, -, rfl⟩, later, hlater, rfl⟩ := hread
          simp [ih later hlater]
      refine ⟨?_, ?_⟩
      · rw [Fields.Ascending, hnames]
        exact ascending
      · intro x hx
        obtain ⟨e, he, hdecode⟩ := mem_of_mapM_eq_ok hread hx
        obtain ⟨a, ha, rfl⟩ := map_eq_ok.mp hdecode
        exact h.sound e.2 a (values_wellFormed e he) ha
    | null => cases hread
    | bool b => cases hread
    | int _ _ => cases hread
    | float x => cases hread
    | text s => cases hread
    | array _ => cases hread
  wellFormed xs hxs := by
    obtain ⟨hasc, hvalid⟩ := hxs
    have hmapped : Fields.Ascending (xs.map fun e => (e.1, encode e.2)) :=
      ascending_map_encode hasc
    rw [Fields.ofPairs_of_ascending hmapped]
    refine .object hmapped ?_
    intro e he
    obtain ⟨x, hx, rfl⟩ := List.mem_map.mp he
    exact h.wellFormed x.2 (hvalid x hx)
  decode_encode xs hxs := by
    obtain ⟨hasc, hvalid⟩ := hxs
    rw [Fields.ofPairs_of_ascending (ascending_map_encode hasc), asNamed]
    refine mapM_map_eq_ok ?_
    intro x hx
    rw [h.decode_encode x.2 (hvalid x hx), map_ok]

end Compound

/-! ## Records -/

section Records

variable {decode : Json → Result α} {encode : α → Json} {Valid : α → Prop}

/-- A written entry is read again from every object that includes it. -/
theorem Faithful.field? (h : Faithful decode encode Valid) {fields part : Fields}
    (hinc : Fields.Includes fields part) (key : String) (x : α) (hmem : (key, encode x) ∈ part)
    (hx : Valid x) : Decoding.field? fields key decode = .ok (some x) := by
  rw [Decoding.field?, hinc.get? hmem]
  simp only [h.decode_encode x hx, map_ok]

theorem Sound.field? (h : Sound decode Valid) {fields : Fields} (hfields : fields.WellFormed)
    {key : String} {o : Option α} (hread : Decoding.field? fields key decode = .ok o) :
    ∀ a ∈ o, Valid a := by
  intro a ha
  obtain rfl := Option.mem_def.mp ha
  rw [Decoding.field?] at hread
  split at hread
  · cases hread
  · next v hv =>
    obtain ⟨b, hb, hsome⟩ := map_eq_ok.mp hread
    obtain rfl := Option.some.inj hsome
    exact h v b (hfields.of_get? hv) hb

theorem Yields.field? (h : Yields decode Valid) {fields : Fields} {key : String} {o : Option α}
    (hread : Decoding.field? fields key decode = .ok o) : ∀ a ∈ o, Valid a := by
  intro a ha
  obtain rfl := Option.mem_def.mp ha
  rw [Decoding.field?] at hread
  split at hread
  · cases hread
  · next v _ =>
    obtain ⟨b, hb, hsome⟩ := map_eq_ok.mp hread
    obtain rfl := Option.some.inj hsome
    exact h v b hb

/-- A part that was left out stands for a valid default. -/
theorem valid_getD {o : Option α} {d : α} (h : ∀ a ∈ o, Valid a) (hd : Valid d) :
    Valid (o.getD d) := by
  cases o with
  | none => exact hd
  | some a => exact h a rfl

/-- A part that may be missing is read again, whether it is there or not. -/
theorem Faithful.field?_optional (h : Faithful decode encode Valid)
    (hnull : ∀ x, asOptional decode (encode x) = some <$> decode (encode x)) {fields : Fields}
    {key : String} {o : Option α} (hget : Fields.get? fields key = o.map encode)
    (ho : ∀ a ∈ o, Valid a) :
    Decoding.field? fields key (asOptional decode) = .ok (o.map some) := by
  rw [Decoding.field?, hget]
  cases o with
  | none => rfl
  | some x => simp only [Option.map_some, hnull, h.decode_encode x (ho x rfl), map_ok]

theorem valid_join {o : Option (Option α)} (h : ∀ inner ∈ o, ∀ a ∈ inner, Valid a) :
    ∀ a ∈ o.join, Valid a := by
  intro a ha
  exact h (some a) (Option.join_eq_some_iff.mp ha) a rfl

theorem Sound.item (h : Sound decode Valid) {items : List Json}
    (hitems : ∀ v ∈ items, v.WellFormed) {index : Nat} {whole : Shape} {x : α}
    (hread : Decoding.item items index whole decode = .ok x) : Valid x := by
  rw [Decoding.item] at hread
  split at hread
  · next v hv => exact h v x (hitems v (List.mem_of_getElem? hv)) hread
  · cases hread

theorem Sound.itemD (h : Sound decode Valid) {items : List Json}
    (hitems : ∀ v ∈ items, v.WellFormed) {index : Nat} {d x : α} (hd : Valid d)
    (hread : Decoding.itemD items index d decode = .ok x) : Valid x := by
  rw [Decoding.itemD] at hread
  split at hread
  · next v hv => exact h v x (hitems v (List.mem_of_getElem? hv)) hread
  · obtain rfl := Except.ok.inj hread
    exact hd

theorem Yields.itemD (h : Yields decode Valid) {items : List Json} {index : Nat} {d x : α}
    (hd : Valid d) (hread : Decoding.itemD items index d decode = .ok x) : Valid x := by
  rw [Decoding.itemD] at hread
  split at hread
  · next v _ => exact h v x hread
  · obtain rfl := Except.ok.inj hread
    exact hd

variable {ofFields : Fields → Result α} {ofItems : List Json → Result α} {toFields : α → Fields}

/-- What a record is read as is valid if this holds of both of its forms. -/
theorem yields_record (name : String) (hfields : ∀ fields x, ofFields fields = .ok x → Valid x)
    (hitems : ∀ items x, ofItems items = .ok x → Valid x) :
    Yields (record name ofFields ofItems) Valid := by
  intro v x h
  cases v with
  | object fields => exact hfields fields x h
  | array items => exact hitems items x h
  | null => cases h
  | bool b => cases h
  | int n => cases h
  | float x => cases h
  | text s => cases h

/-- A record is faithful if both of its forms are read as valid values and its entries are
read again. -/
theorem faithful_record (name : String)
    (hfields : ∀ fields x, fields.WellFormed → ofFields fields = .ok x → Valid x)
    (hitems : ∀ items x, (∀ v ∈ items, v.WellFormed) → ofItems items = .ok x → Valid x)
    (hwell : ∀ x, Valid x → (toFields x).WellFormed)
    (hread : ∀ x, Valid x → ofFields (toFields x) = .ok x) :
    Faithful (record name ofFields ofItems) (fun x => .object (toFields x)) Valid where
  sound := by
    intro v x hv h
    cases hv with
    | object ascending values => exact hfields _ x (.object ascending values) h
    | array items_wellFormed => exact hitems _ x items_wellFormed h
    | null => cases h
    | bool b => cases h
    | int _ _ => cases h
    | float x => cases h
    | text s => cases h
  wellFormed := hwell
  decode_encode := hread

theorem faithful_openRecord (name : String)
    (hfields : ∀ fields x, fields.WellFormed → ofFields fields = .ok x → Valid x)
    (hwell : ∀ x, Valid x → (toFields x).WellFormed)
    (hread : ∀ x, Valid x → ofFields (toFields x) = .ok x) :
    Faithful (openRecord name ofFields) (fun x => .object (toFields x)) Valid where
  sound := by
    intro v x hv h
    cases v with
    | object fields => exact hfields fields x hv h
    | null => cases h
    | bool b => cases h
    | int n => cases h
    | float x => cases h
    | text s => cases h
    | array items => cases h
  wellFormed := hwell
  decode_encode := hread

end Records

end Decoding

end ActivityFlow
