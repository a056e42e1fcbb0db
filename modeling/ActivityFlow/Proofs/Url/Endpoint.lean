import ActivityFlow.StoreClient
import ActivityFlow.Proofs.Url.Percent
import Mathlib.Data.List.Forall2
import Mathlib.Data.List.Induction

/-!
# Addresses below the store

Segments are put behind the base path of the store one by one. A segment is kept if it is not a
point segment and has no characters that are passed over: then one segment of the path spells
it, and different lists of kept segments have different addresses. Every other segment is lost
in part or as a whole, and shares its address with another list of segments.
-/
namespace ActivityFlow

namespace Url

/-! ## Segments and what they spell -/

/-- A path without its last segment, if that is empty. -/
def basePath (path : List String) : List String :=
  if path.getLast? = some "" then path.dropLast else path

/-- A segment without the characters that are passed over. -/
def visiblePart (segment : String) : String :=
  String.ofList (segment.toList.filter fun c => !isPassedOver c)

/-- A segment in percent form. -/
def segmentForm (segment : String) : String :=
  String.ofList (percentEncode inSegment segment.toList)

/-- A segment that is put into a path as it is. -/
def IsKept (segment : String) : Prop :=
  segment ≠ "." ∧ segment ≠ ".." ∧ ∀ c ∈ segment.toList, isPassedOver c = false

instance (segment : String) : Decidable (IsKept segment) :=
  decidable_of_iff
    (segment ≠ "." ∧ segment ≠ ".." ∧ segment.toList.all fun c => !isPassedOver c) <| by
    simp only [IsKept, List.all_eq_true, Bool.not_eq_true']

/-- A part of a path is read as a given segment. -/
def Spells (part segment : String) : Prop := percentDecode part.toList = Text.encode segment

theorem spells_segmentForm (segment : String) : Spells (segmentForm segment) segment := by
  rw [Spells, segmentForm, String.toList_ofList]
  exact percentDecode_percentEncode rfl segment.toList

theorem Spells.unique {part s t : String} (hs : Spells part s) (ht : Spells part t) : s = t :=
  Text.encode_injective (hs.symm.trans ht)

theorem segmentForm_injective : Function.Injective segmentForm := by
  intro s t h
  have ht : Spells (segmentForm s) t := h ▸ spells_segmentForm t
  exact (spells_segmentForm s).unique ht

theorem segmentForm_eq_point_iff {segment : String} :
    segmentForm segment = "." ↔ segment = "." :=
  segmentForm_injective.eq_iff' rfl

theorem segmentForm_eq_points_iff {segment : String} :
    segmentForm segment = ".." ↔ segment = ".." :=
  segmentForm_injective.eq_iff' rfl

theorem slash_notMem_segmentForm (segment : String) : '/' ∉ (segmentForm segment).toList := by
  rw [segmentForm, String.toList_ofList]
  exact slash_notMem_percentEncode rfl segment.toList

theorem visiblePart_eq_self_iff {segment : String} :
    visiblePart segment = segment ↔ ∀ c ∈ segment.toList, isPassedOver c = false := by
  rw [← String.toList_inj, visiblePart, String.toList_ofList, List.filter_eq_self]
  simp only [Bool.not_eq_true']

/-! ## One segment -/

/-- What becomes of a path with a segment put at its end. -/
theorem pushSegment_eq (path : List String) (segment : String) :
    pushSegment path segment =
      if segment = "." ∨ segment = ".." then path
      else if visiblePart segment = "." then openPath path ++ [""]
      else if visiblePart segment = ".." then (openPath path).dropLast ++ [""]
      else openPath path ++ [segmentForm (visiblePart segment)] := by
  have hform : String.ofList
      (percentEncode inSegment (segment.toList.filter fun c => !isPassedOver c)) =
        segmentForm (visiblePart segment) := by
    rw [segmentForm, visiblePart, String.toList_ofList]
  simp only [pushSegment, hform, Bool.or_eq_true, beq_iff_eq, segmentForm_eq_point_iff,
    segmentForm_eq_points_iff]

theorem pushSegment_of_kept (path : List String) {segment : String} (h : IsKept segment) :
    pushSegment path segment = openPath path ++ [segmentForm segment] := by
  have hvisible : visiblePart segment = segment := visiblePart_eq_self_iff.mpr h.2.2
  rw [pushSegment_eq, hvisible, if_neg (not_or.mpr ⟨h.1, h.2.1⟩), if_neg h.1, if_neg h.2.1]

theorem openPath_of_two_le {path : List String} (h : 2 ≤ path.length) : openPath path = path := by
  refine if_neg ?_
  rintro rfl
  exact absurd h (by decide)

/-- What a segment makes of a path. A point segment leaves it as it is, and one that shows as two
points empties its last part. Any other one adds a part, which spells it only if it is kept. -/
inductive Pushed (path : List String) (segment : String) : List String → Prop where
  | skipped (point : segment = "." ∨ segment = "..") : Pushed path segment path
  | moved (not_points : segment ≠ "..") (visible : visiblePart segment = "..") :
    Pushed path segment (path.dropLast ++ [""])
  | added {part : String} (not_point : segment ≠ ".") (not_points : visiblePart segment ≠ "..")
    (kept : Spells part segment → IsKept segment) : Pushed path segment (path ++ [part])

theorem pushed_pushSegment {path : List String} (h : 2 ≤ path.length) (segment : String) :
    Pushed path segment (pushSegment path segment) := by
  rw [pushSegment_eq, openPath_of_two_le h]
  split_ifs with hpoint hone htwo
  · exact .skipped hpoint
  · refine .added (fun hs => hpoint (.inl hs)) (by rw [hone]; decide) fun hspells => ?_
    -- An empty part spells the empty segment only, of which nothing shows.
    have hempty : segment = "" := hspells.unique rfl
    rw [hempty] at hone
    exact absurd hone (by decide)
  · exact .moved (fun hs => hpoint (.inr hs)) htwo
  · refine .added (fun hs => hpoint (.inl hs)) htwo fun hspells => ?_
    have hself : visiblePart segment = segment := (spells_segmentForm _).unique hspells
    exact ⟨fun hs => hpoint (.inl hs), fun hs => hpoint (.inr hs),
      visiblePart_eq_self_iff.mp hself⟩

theorem Pushed.length_bounds {path result : List String} {segment : String}
    (hpushed : Pushed path segment result) (h : 2 ≤ path.length) :
    path.length ≤ result.length ∧ result.length ≤ path.length + 1 := by
  cases hpushed with
  | skipped => exact ⟨Nat.le_refl _, Nat.le_succ _⟩
  | moved =>
    rw [List.length_append, List.length_dropLast, List.length_singleton]
    omega
  | added =>
    rw [List.length_append, List.length_singleton]
    omega

theorem Pushed.of_longer {path init : List String} {segment part : String}
    (hpushed : Pushed path segment (init ++ [part])) (h : 2 ≤ path.length)
    (hlonger : path.length ≤ init.length) :
    path = init ∧ segment ≠ "." ∧ visiblePart segment ≠ ".." ∧
      (Spells part segment → IsKept segment) := by
  generalize hresult : init ++ [part] = result at hpushed
  have hlength : init.length + 1 = result.length := by
    rw [← hresult, List.length_append, List.length_singleton]
  cases hpushed with
  | skipped => omega
  | moved =>
    rw [List.length_append, List.length_dropLast, List.length_singleton] at hlength
    omega
  | added not_point not_points kept =>
    obtain ⟨hinit, hpart⟩ := List.append_inj' hresult rfl
    rw [List.singleton_injective hpart]
    exact ⟨hinit.symm, not_point, not_points, kept⟩

/-- A path gets longer by a segment unless this stands for the path itself or for the one
before it. -/
theorem pushSegment_grows_iff {path : List String} (h : 2 ≤ path.length) (segment : String) :
    (∃ part, pushSegment path segment = path ++ [part]) ↔
      segment ≠ "." ∧ visiblePart segment ≠ ".." := by
  have hpushed := pushed_pushSegment h segment
  constructor
  · rintro ⟨part, hpart⟩
    rw [hpart] at hpushed
    obtain ⟨-, hpoint, hpoints, -⟩ := hpushed.of_longer h (Nat.le_refl _)
    exact ⟨hpoint, hpoints⟩
  · rintro ⟨hpoint, hpoints⟩
    generalize pushSegment path segment = result at hpushed ⊢
    cases hpushed with
    | skipped point =>
      rcases point with rfl | rfl
      · exact absurd rfl hpoint
      · exact absurd rfl hpoints
    | moved not_points visible => exact absurd visible hpoints
    | added => exact ⟨_, rfl⟩

/-! ## Lists of segments -/

theorem length_foldl_pushSegment {path : List String} (h : 2 ≤ path.length)
    (segments : List String) :
    path.length ≤ (segments.foldl pushSegment path).length ∧
      (segments.foldl pushSegment path).length ≤ path.length + segments.length := by
  induction segments generalizing path with
  | nil => exact ⟨Nat.le_refl _, Nat.le_refl _⟩
  | cons segment rest ih =>
    have hbounds := (pushed_pushSegment h segment).length_bounds h
    have hrest := ih (Nat.le_trans h hbounds.1)
    rw [List.foldl_cons, List.length_cons]
    omega

/-- Kept segments stand behind the path in percent form. -/
theorem foldl_pushSegment_of_kept {path : List String} (h : 2 ≤ path.length)
    {segments : List String} (hkept : ∀ s ∈ segments, IsKept s) :
    segments.foldl pushSegment path = path ++ segments.map segmentForm := by
  induction segments generalizing path with
  | nil => exact (List.append_nil path).symm
  | cons segment rest ih =>
    have hlong : 2 ≤ (path ++ [segmentForm segment]).length := by
      rw [List.length_append]
      omega
    obtain ⟨hsegment, hrest⟩ := List.forall_mem_cons.mp hkept
    rw [List.foldl_cons, pushSegment_of_kept path hsegment, openPath_of_two_le h, ih hlong hrest,
      List.map_cons, List.append_assoc, List.singleton_append]

theorem forall₂_spells_map (segments : List String) :
    List.Forall₂ Spells (segments.map segmentForm) segments := by
  rw [List.forall₂_map_left_iff, List.forall₂_same]
  exact fun segment _ => spells_segmentForm segment

theorem exists_concat_of_spells {parts segments : List String} {segment : String}
    (h : List.Forall₂ Spells parts (segments ++ [segment])) :
    ∃ init part, parts = init ++ [part] ∧ List.Forall₂ Spells init segments ∧
      Spells part segment := by
  have hinit := List.forall₂_take_append _ _ _ h
  have hlast := List.forall₂_drop_append _ _ _ h
  obtain ⟨part, rest, hpart, hrest, hparts⟩ := List.forall₂_cons_right_iff.mp hlast
  rw [List.forall₂_nil_right_iff.mp hrest] at hparts
  exact ⟨_, part, hparts ▸ (List.take_append_drop _ parts).symm, hinit, hpart⟩

/-- Segments that the parts behind a path spell one by one have all been kept. The induction
takes the segments off from behind: the path before the last one cannot have lost a segment, since
the last one makes up for no more than itself. -/
theorem kept_of_spells {path : List String} (h : 2 ≤ path.length) {segments : List String} :
    ∀ {parts : List String}, segments.foldl pushSegment path = path ++ parts →
      List.Forall₂ Spells parts segments → ∀ s ∈ segments, IsKept s := by
  induction segments using List.reverseRecOn with
  | nil => exact fun _ _ s hs => absurd hs List.not_mem_nil
  | append_singleton segments segment ih =>
    intro parts hfold hspells
    rw [List.foldl_append, List.foldl_cons, List.foldl_nil] at hfold
    obtain ⟨init, part, rfl, hinit, hpart⟩ := exists_concat_of_spells hspells
    rw [← List.append_assoc] at hfold
    obtain ⟨hlower, hupper⟩ := length_foldl_pushSegment h segments
    have hlong : 2 ≤ (segments.foldl pushSegment path).length := Nat.le_trans h hlower
    have hpushed := pushed_pushSegment hlong segment
    rw [hfold] at hpushed
    obtain ⟨hbefore, -, -, hkept⟩ := hpushed.of_longer hlong <| by
      rw [List.length_append, hinit.length_eq]
      exact hupper
    intro s hs
    rcases List.mem_append.mp hs with hs | hs
    · exact ih hbefore hinit s hs
    · rw [List.mem_singleton.mp hs]
      exact hkept hpart

/-! ## The texts of paths -/

/-- The segments behind a path are written behind its text, each after a slash. -/
theorem intercalate_behind {path : List String} (hpath : path ≠ []) (parts : List String) :
    String.intercalate "/" (path ++ parts) =
      String.intercalate "/" path ++ String.intercalate "/" ("" :: parts) := by
  cases parts with
  | nil =>
    have hempty : String.intercalate "/" [""] = "" := rfl
    rw [List.append_nil, hempty, String.append_empty]
  | cons part rest =>
    rw [String.intercalate_append_of_ne_nil hpath (List.cons_ne_nil part rest),
      String.intercalate_cons_cons, String.empty_append, String.append_assoc]

/-- Segments without slashes are read back from the text of a path. -/
theorem intercalate_injective {parts others : List String} (hparts : parts ≠ [])
    (hothers : others ≠ []) (hpartsSlash : ∀ part ∈ parts, '/' ∉ part.toList)
    (hothersSlash : ∀ part ∈ others, '/' ∉ part.toList)
    (h : String.intercalate "/" parts = String.intercalate "/" others) : parts = others := by
  have hsplit : ∀ segments : List String, segments ≠ [] →
      (∀ part ∈ segments, '/' ∉ part.toList) →
        List.splitOn '/' (String.intercalate "/" segments).toList =
          segments.map String.toList := by
    intro segments hne hslash
    have hslashes : ∀ cs ∈ segments.map String.toList, '/' ∉ cs := by
      intro cs hcs
      obtain ⟨part, hpart, rfl⟩ := List.mem_map.mp hcs
      exact hslash part hpart
    rw [String.toList_intercalate]
    exact List.splitOn_intercalate '/' hslashes (by simpa using hne)
  have hlists : parts.map String.toList = others.map String.toList := by
    rw [← hsplit parts hparts hpartsSlash, h, hsplit others hothers hothersSlash]
  exact List.map_injective_iff.mpr (fun _ _ => String.toList_inj.mp) hlists

/-- Different segments behind a path make different texts. -/
theorem intercalate_segmentForms_injective {path : List String} (hpath : path ≠ [])
    {segments others : List String}
    (h : String.intercalate "/" (path ++ segments.map segmentForm) =
      String.intercalate "/" (path ++ others.map segmentForm)) : segments = others := by
  have hslash : ∀ ss : List String, ∀ part ∈ "" :: ss.map segmentForm, '/' ∉ part.toList := by
    intro ss part hpart
    rcases List.mem_cons.mp hpart with rfl | hpart
    · exact List.not_mem_nil
    · obtain ⟨s, -, rfl⟩ := List.mem_map.mp hpart
      exact slash_notMem_segmentForm s
  rw [intercalate_behind hpath, intercalate_behind hpath, String.append_right_inj] at h
  have hforms := intercalate_injective (List.cons_ne_nil _ _) (List.cons_ne_nil _ _)
    (hslash segments) (hslash others) h
  exact List.map_injective_iff.mpr segmentForm_injective (List.cons_injective hforms)

/-- Addresses that differ in their paths only have the same text only if their paths have. -/
theorem intercalate_eq_of_text_eq {u : Url} {path other : List String}
    (h : text { u with path := path } = text { u with path := other }) :
    String.intercalate "/" path = String.intercalate "/" other := by
  simp only [text, pathText] at h
  have hpath := (String.append_left_inj _).mp ((String.append_left_inj _).mp h)
  exact (String.append_right_inj _).mp ((String.append_right_inj _).mp hpath)

/-! ## The path of a base address -/

/-- An empty last segment makes room for what is put behind it; so does the one before it, if
there are no others. -/
theorem openPath_dropEmptySegment (path : List String) :
    openPath (dropEmptySegment path) = if path = ["", ""] then [] else basePath path := by
  by_cases hlast : path.getLast? = some ""
  · obtain ⟨init, rfl⟩ := List.getLast?_eq_some_iff.mp hlast
    have hbase : basePath (init ++ [""]) = init := by
      rw [basePath, if_pos hlast, List.dropLast_concat]
    have htwo : init ++ [""] = ["", ""] ↔ init = [""] :=
      ⟨fun heq => (List.append_inj' heq rfl).1, congrArg (· ++ [""])⟩
    simp only [hbase, htwo]
    cases init with
    | nil => rfl
    | cons s rest =>
      have hdrop : dropEmptySegment (s :: rest ++ [""]) = s :: rest := by
        rw [dropEmptySegment, hlast, List.dropLast_concat, if_pos]
        simp
      rw [hdrop, openPath]
  · have hdrop : dropEmptySegment path = path := by
      rw [dropEmptySegment, if_neg]
      simp only [Bool.and_eq_true, decide_eq_true_eq, beq_iff_eq]
      exact fun hboth => hlast hboth.2
    have hone : path ≠ [""] := by
      rintro rfl
      exact hlast rfl
    have htwo : path ≠ ["", ""] := by
      rintro rfl
      exact hlast rfl
    rw [hdrop, openPath, if_neg hone, if_neg htwo, basePath, if_neg hlast]

end Url

namespace StoreClient

open Url

/-- The path that the segments of an address stand behind. -/
def rootPath (c : StoreClient) : List String :=
  openPath (dropEmptySegment c.storeUrl.path) ++ ["api", "v1"]

theorem two_le_length_rootPath (c : StoreClient) : 2 ≤ c.rootPath.length := by
  rw [rootPath, List.length_append]
  exact Nat.le_add_left 2 _

theorem rootPath_ne_nil (c : StoreClient) : c.rootPath ≠ [] :=
  List.append_ne_nil_of_right_ne_nil _ (List.cons_ne_nil _ _)

theorem rootPath_of_ne {c : StoreClient} (h : c.storeUrl.path ≠ ["", ""]) :
    c.rootPath = basePath c.storeUrl.path ++ ["api", "v1"] := by
  rw [rootPath, openPath_dropEmptySegment, if_neg h]

theorem path_endpoint (c : StoreClient) (segments : List String) :
    (c.endpoint segments).path = segments.foldl pushSegment c.rootPath := by
  have hapi (path : List String) : pushSegment path "api" = openPath path ++ ["api"] :=
    pushSegment_of_kept path (by decide)
  have hv1 (path : List String) : pushSegment (path ++ ["api"]) "v1" = path ++ ["api", "v1"] := by
    have hopen : openPath (path ++ ["api"]) = path ++ ["api"] := by
      refine if_neg fun h => ?_
      have hnil : path ++ ["api"] = [] ++ [""] := h
      have hlast : ["api"] = [""] := (List.append_inj' hnil rfl).2
      exact absurd hlast (by decide)
    rw [pushSegment_of_kept _ (by decide), hopen, List.append_assoc]
    rfl
  rw [endpoint, extend, List.foldl_cons, List.foldl_cons, hapi, hv1, rootPath]

theorem path_endpoint_append (c : StoreClient) (segments : List String) (id : String) :
    (c.endpoint (segments ++ [id])).path = pushSegment (c.endpoint segments).path id := by
  rw [path_endpoint, path_endpoint, List.foldl_append, List.foldl_cons, List.foldl_nil]

theorem two_le_length_path_endpoint (c : StoreClient) (segments : List String) :
    2 ≤ (c.endpoint segments).path.length := by
  have hroot := c.two_le_length_rootPath
  rw [path_endpoint]
  exact Nat.le_trans hroot (length_foldl_pushSegment hroot segments).1

/-- An address differs from the base address in its path only. -/
theorem endpoint_of_path_eq {c : StoreClient} {segments path : List String}
    (h : (c.endpoint segments).path = path) :
    c.endpoint segments = { c.storeUrl with path := path } :=
  congrArg (fun path => { c.storeUrl with path := path }) h

theorem path_endpoint_of_kept (c : StoreClient) {segments : List String}
    (hkept : ∀ s ∈ segments, IsKept s) :
    (c.endpoint segments).path = c.rootPath ++ segments.map segmentForm := by
  rw [path_endpoint, foldl_pushSegment_of_kept c.two_le_length_rootPath hkept]

/-- Every segment of an address is spelled by one segment of its path just if all are kept, and
the base path is not that of two empty segments, of which both are lost. -/
theorem spelled_iff_kept (c : StoreClient) (segments : List String) :
    (∃ parts, (c.endpoint segments).path = basePath c.storeUrl.path ++ ["api", "v1"] ++ parts ∧
        List.Forall₂ Spells parts segments) ↔
      c.storeUrl.path ≠ ["", ""] ∧ ∀ s ∈ segments, IsKept s := by
  constructor
  · rintro ⟨parts, hpath, hspells⟩
    have hbase : c.storeUrl.path ≠ ["", ""] := by
      intro hbase
      have hroot : c.rootPath = ["api", "v1"] := by
        rw [rootPath, openPath_dropEmptySegment, if_pos hbase, List.nil_append]
      have hupper := (length_foldl_pushSegment c.two_le_length_rootPath segments).2
      rw [← path_endpoint, hpath, hbase, hroot, List.length_append, hspells.length_eq] at hupper
      have hlonger : (basePath ["", ""] ++ ["api", "v1"]).length = 3 := by decide
      rw [hlonger] at hupper
      simp only [List.length_cons, List.length_nil] at hupper
      omega
    rw [path_endpoint, ← rootPath_of_ne hbase] at hpath
    exact ⟨hbase, kept_of_spells c.two_le_length_rootPath hpath hspells⟩
  · rintro ⟨hbase, hkept⟩
    refine ⟨segments.map segmentForm, ?_, forall₂_spells_map segments⟩
    rw [c.path_endpoint_of_kept hkept, rootPath_of_ne hbase]

/-- Different lists of kept segments have different addresses. -/
theorem eq_of_text_endpoint_eq (c : StoreClient) {segments others : List String}
    (hsegments : ∀ s ∈ segments, IsKept s) (hothers : ∀ s ∈ others, IsKept s)
    (h : (c.endpoint others).text = (c.endpoint segments).text) : others = segments := by
  rw [endpoint_of_path_eq (c.path_endpoint_of_kept hsegments),
    endpoint_of_path_eq (c.path_endpoint_of_kept hothers)] at h
  exact intercalate_segmentForms_injective c.rootPath_ne_nil (intercalate_eq_of_text_eq h)

/-- A last segment that stands for the path before it takes the address out of there. -/
theorem path_endpoint_of_visible_points (c : StoreClient) (segments : List String) {id : String}
    (hid : id ≠ "..") (hvisible : visiblePart id = "..") :
    (c.endpoint (segments ++ [id])).path = (c.endpoint segments).path.dropLast ++ [""] := by
  have hpoint : id ≠ "." := by
    rintro rfl
    exact absurd hvisible (by decide)
  have htwo : visiblePart id ≠ "." := by
    rw [hvisible]
    decide
  rw [path_endpoint_append, pushSegment_eq,
    openPath_of_two_le (c.two_le_length_path_endpoint segments),
    if_neg (not_or.mpr ⟨hpoint, hid⟩), if_neg htwo, if_pos hvisible]

theorem endpoint_append_point (c : StoreClient) (segments : List String) {id : String}
    (h : id = "." ∨ id = "..") : c.endpoint (segments ++ [id]) = c.endpoint segments := by
  have hpath : (c.endpoint (segments ++ [id])).path = (c.endpoint segments).path := by
    rw [path_endpoint_append, pushSegment_eq, if_pos h]
  exact endpoint_of_path_eq hpath

theorem endpoint_append_of_visiblePart_eq (c : StoreClient) (segments : List String)
    {id other : String} (hid : ¬(id = "." ∨ id = "..")) (hother : ¬(other = "." ∨ other = ".."))
    (h : visiblePart other = visiblePart id) :
    c.endpoint (segments ++ [other]) = c.endpoint (segments ++ [id]) := by
  have hpath : (c.endpoint (segments ++ [other])).path = (c.endpoint (segments ++ [id])).path := by
    rw [path_endpoint_append, path_endpoint_append, pushSegment_eq, pushSegment_eq,
      if_neg hother, if_neg hid, h]
  exact endpoint_of_path_eq hpath

/-- Addresses below the store differ in their paths only. Behind the base path, less one empty
last segment, and the names of the interface stands one segment for each given one that spells
it, just if all given ones are kept and the base path is not that of two empty segments. Then no
other list of kept segments has the same address, and a kept segment more makes one step down.
Any segment makes a step down unless it is a point segment, which leaves the address as it is,
or shows as two points, which takes it out of where it was. Of other segments only the visible
part counts. -/
theorem endpoint_spells_iff (c : StoreClient) (segments : List String) :
    c.endpoint segments = { c.storeUrl with path := (c.endpoint segments).path } ∧
      ((∃ parts, (c.endpoint segments).path =
          basePath c.storeUrl.path ++ ["api", "v1"] ++ parts ∧
            List.Forall₂ Spells parts segments) ↔
        c.storeUrl.path ≠ ["", ""] ∧ ∀ s ∈ segments, IsKept s) ∧
      ((∀ s ∈ segments, IsKept s) → ∀ others : List String, (∀ s ∈ others, IsKept s) →
        (c.endpoint others).text = (c.endpoint segments).text → others = segments) ∧
      ∀ id,
        (IsKept id → ∃ part, Spells part id ∧
          (c.endpoint (segments ++ [id])).path = (c.endpoint segments).path ++ [part]) ∧
        ((∃ part, (c.endpoint (segments ++ [id])).path = (c.endpoint segments).path ++ [part]) ↔
          id ≠ "." ∧ visiblePart id ≠ "..") ∧
        (id = "." ∨ id = ".." → c.endpoint (segments ++ [id]) = c.endpoint segments) ∧
        (id ≠ ".." → visiblePart id = ".." → (c.endpoint (segments ++ [id])).path =
          (c.endpoint segments).path.dropLast ++ [""]) ∧
        ∀ other, ¬(id = "." ∨ id = "..") → ¬(other = "." ∨ other = "..") →
          visiblePart other = visiblePart id →
            c.endpoint (segments ++ [other]) = c.endpoint (segments ++ [id]) := by
  have hlong := c.two_le_length_path_endpoint segments
  refine ⟨endpoint_of_path_eq rfl, c.spelled_iff_kept segments, ?_, ?_⟩
  · intro hsegments others hothers htext
    exact c.eq_of_text_endpoint_eq hsegments hothers htext
  intro id
  refine ⟨?_, ?_, c.endpoint_append_point segments, c.path_endpoint_of_visible_points segments,
    fun other hid hother => c.endpoint_append_of_visiblePart_eq segments hid hother⟩
  · intro hid
    refine ⟨segmentForm id, spells_segmentForm id, ?_⟩
    rw [path_endpoint_append, pushSegment_of_kept _ hid, openPath_of_two_le hlong]
  · rw [path_endpoint_append]
    exact pushSegment_grows_iff hlong id

/-- A record behind a base path with an empty last segment has an address of its own. The tab of
another one is lost, so that the two share an address. -/
theorem endpoint_spells_iff_objects :
    let c : StoreClient :=
      { serverUrl := ⟨true, "", "", .domain "s", none, [""], none, none⟩
        storeUrl := ⟨true, "", "", .domain "h", none, ["base", ""], none, none⟩
        token := "k" }
    (∃ parts, (c.endpoint ["objects", "a b/c"]).path = ["base", "api", "v1"] ++ parts ∧
      List.Forall₂ Spells parts ["objects", "a b/c"]) ∧
    (∀ others : List String, (∀ s ∈ others, IsKept s) →
      (c.endpoint others).text = (c.endpoint ["objects", "a b/c"]).text →
        others = ["objects", "a b/c"]) ∧
    (¬∃ parts, (c.endpoint ["objects", "a\tb"]).path = ["base", "api", "v1"] ++ parts ∧
      List.Forall₂ Spells parts ["objects", "a\tb"]) ∧
    c.endpoint ["objects", "a\tb"] = c.endpoint ["objects", "ab"] ∧
    c.endpoint ["objects", ".."] = c.endpoint ["objects"] ∧
    (c.endpoint ["objects", ".\t."]).path = (c.endpoint []).path ++ [""] := by
  intro c
  have hkept : ∀ s ∈ ["objects", "a b/c"], IsKept s := by decide
  obtain ⟨-, hspelled, hunique, -⟩ := endpoint_spells_iff c ["objects", "a b/c"]
  obtain ⟨-, hlost, -, -⟩ := endpoint_spells_iff c ["objects", "a\tb"]
  obtain ⟨-, -, -, hlast⟩ := endpoint_spells_iff c ["objects"]
  refine ⟨hspelled.mpr ⟨by decide, hkept⟩, hunique hkept, ?_, ?_, ?_, ?_⟩
  · intro h
    exact absurd (hlost.mp h).2 (by decide)
  · exact (hlast "ab").2.2.2.2 "a\tb" (by decide) (by decide) (by decide)
  · exact (hlast "..").2.2.1 (.inr rfl)
  · exact (hlast ".\t.").2.2.2.1 (by decide) (by decide)

end StoreClient

end ActivityFlow
