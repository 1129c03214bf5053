import Folio.Proofs.Path.Resolution
import Folio.Proofs.Text.Pieces
import Mathlib.Tactic.MkIffOfInductiveProp

/-!
# The normal form of paths

Resolution leaves climbs followed by names. A path of that shape is its own normal form, so
normalization is stable, and only the part of a path behind its last slash decides how its normal
form ends. A path without climbs does not leave the book.
-/

namespace Folio.Path

open Folio.Text

/-- A segment that resolution keeps as it is, free of slashes of either kind. -/
@[mk_iff] structure IsName (segment : List Char) : Prop where
  ne_nil : segment ≠ []
  ne_dot : segment ≠ ['.']
  ne_up : segment ≠ up
  no_slash : '/' ∉ segment
  no_backslash : '\\' ∉ segment

instance (segment : List Char) : Decidable (IsName segment) :=
  decidable_of_iff _ (isName_iff segment).symm

/-- A text that stays within one segment of a path. -/
def WithinSegment (cs : List Char) : Prop := '/' ∉ cs ∧ '\\' ∉ cs

instance (cs : List Char) : Decidable (WithinSegment cs) := inferInstanceAs (Decidable (_ ∧ _))

theorem IsName.withinSegment {segment : List Char} (h : IsName segment) : WithinSegment segment :=
  ⟨h.no_slash, h.no_backslash⟩

theorem up_withinSegment : WithinSegment up := ⟨by decide, by decide⟩

/-- Climbs and then names, the segments that resolution leaves. -/
structure Settled (climbs : Nat) (names segments : List (List Char)) : Prop where
  eq_append : segments = List.replicate climbs up ++ names
  isName : ∀ name ∈ names, IsName name

/-- Names alone are settled. -/
theorem settled_of_isName {names : List (List Char)} (h : ∀ name ∈ names, IsName name) :
    Settled 0 names names := ⟨rfl, h⟩

/-- The segments of settled paths hold no slashes. -/
theorem Settled.withinSegment {climbs : Nat} {names segments : List (List Char)}
    (h : Settled climbs names segments) {segment : List Char} (hs : segment ∈ segments) :
    WithinSegment segment := by
  rw [h.eq_append, List.mem_append] at hs
  rcases hs with hs | hs
  · rw [List.eq_of_mem_replicate hs]
    exact up_withinSegment
  · exact (h.isName segment hs).withinSegment

/-- The segments of settled paths are not empty. -/
theorem Settled.ne_nil {climbs : Nat} {names segments : List (List Char)}
    (h : Settled climbs names segments) {segment : List Char} (hs : segment ∈ segments) :
    segment ≠ [] := by
  rw [h.eq_append, List.mem_append] at hs
  rcases hs with hs | hs
  · rw [List.eq_of_mem_replicate hs]
    exact List.cons_ne_nil _ _
  · exact (h.isName segment hs).ne_nil

theorem IsName.leadsDown {segment : List Char} (h : IsName segment) :
    Path.leadsDown segment = true := leadsDown_iff.mpr ⟨h.ne_nil, h.ne_dot, h.ne_up⟩

theorem WithinSegment.isName {segment : List Char} (h : WithinSegment segment)
    (hdown : leadsDown segment = true) : IsName segment where
  ne_nil := (leadsDown_iff.mp hdown).1
  ne_dot := (leadsDown_iff.mp hdown).2.1
  ne_up := (leadsDown_iff.mp hdown).2.2
  no_slash := h.1
  no_backslash := h.2

/-- Resolution leaves climbs followed by names. -/
theorem ComesTo.settled {rooted : Bool} {segments names : List (List Char)} {climbs : Nat}
    (h : ComesTo rooted segments climbs names) (hs : ∀ segment ∈ segments, WithinSegment segment) :
    Settled climbs names (resolve rooted segments) where
  eq_append := h.resolve_eq
  isName name hn := (hs name (h.of_mem hn).1).isName (h.of_mem hn).2

/-- Resolution leaves climbs followed by names; a rooted path keeps no climb. -/
theorem exists_settled_resolve {rooted : Bool} {segments : List (List Char)}
    (h : ∀ segment ∈ segments, WithinSegment segment) :
    ∃ climbs names, Settled climbs names (resolve rooted segments) ∧
      (rooted = true → climbs = 0) := by
  obtain ⟨climbs, names, hcomes⟩ := exists_comesTo rooted segments
  exact ⟨climbs, names, hcomes.settled h, hcomes.climbs_eq_zero⟩

/-- A name at the end is kept. -/
theorem resolve_concat {rooted : Bool} {segments : List (List Char)} {name : List Char}
    (h : IsName name) :
    resolve rooted (segments ++ [name]) = resolve rooted segments ++ [name] := by
  rw [resolve, List.foldl_append, List.foldl_cons, List.foldl_nil,
    resolveStep_down _ _ h.leadsDown, List.reverse_cons, resolve]

/-- An empty segment at the end is dropped. -/
theorem resolve_concat_nil (rooted : Bool) (segments : List (List Char)) :
    resolve rooted (segments ++ [[]]) = resolve rooted segments := by
  rw [resolve, List.foldl_append, List.foldl_cons, List.foldl_nil,
    resolveStep_skip _ _ (Or.inl rfl), resolve]

/-- Settled segments come to what they say. -/
theorem Settled.comesTo {climbs : Nat} {names segments : List (List Char)}
    (h : Settled climbs names segments) : ComesTo false segments climbs names := by
  have hclimbs : ComesTo false (List.replicate climbs up) climbs [] := by
    clear h
    induction climbs with
    | zero => exact .start
    | succ climbs ih =>
      rw [List.replicate_succ']
      exact ih.climb rfl
  rw [h.eq_append]
  exact hclimbs.enterAll fun name hn => (h.isName name hn).leadsDown

/-- Settled segments are left alone. -/
theorem Settled.resolve_eq {climbs : Nat} {names segments : List (List Char)}
    (h : Settled climbs names segments) : resolve false segments = segments := by
  rw [h.comesTo.resolve_eq, h.eq_append]

/-- Whether a path begins at the root, a backslash counting as a slash. -/
def isRooted (path : List Char) : Bool := (withSlashes path).head? == some '/'

/-- The segments of a path between slashes of either kind. -/
def segmentsOf (path : List Char) : List (List Char) := splitAt '/' (withSlashes path)

/-- The segments of the normal form of a path. -/
def resolved (path : List Char) : List (List Char) := resolve (isRooted path) (segmentsOf path)

/-- The normal form is the resolved segments joined, with the closing slash if there is one. -/
theorem normalize_eq (path : List Char) :
    normalize path =
      if path.getLast? = some '/' ∧ joinWith ['/'] (resolved path) ≠ [] then
        joinWith ['/'] (resolved path) ++ ['/']
      else joinWith ['/'] (resolved path) := rfl

theorem backslash_not_mem_withSlashes (path : List Char) : '\\' ∉ withSlashes path := by
  intro h
  rcases mem_map_ite h with hslash | ⟨-, hne⟩
  · exact absurd hslash (by decide)
  · exact hne rfl

theorem withSlashes_eq_self {path : List Char} (h : '\\' ∉ path) : withSlashes path = path :=
  map_ite_eq_self h

/-- The segments of a path hold no slashes. -/
theorem withinSegment_of_mem_segmentsOf {path segment : List Char} (h : segment ∈ segmentsOf path) :
    WithinSegment segment :=
  ⟨not_mem_of_mem_splitAt h,
    fun hb => backslash_not_mem_withSlashes path (mem_of_mem_splitAt h hb)⟩

/-- Normalization adds no character but slashes and keeps no backslash. -/
theorem mem_of_mem_normalize {path : List Char} {c : Char} (h : c ∈ normalize path)
    (hslash : c ≠ '/') : c ∈ path ∧ c ≠ '\\' := by
  have hjoin : c ∈ joinWith ['/'] (resolved path) := by
    rw [normalize_eq] at h
    split at h
    · exact (List.mem_append.mp h).resolve_right fun hend => hslash (List.mem_singleton.mp hend)
    · exact h
  obtain hmark | ⟨segment, hsegment, hc⟩ := mem_joinWith hjoin
  · exact absurd (List.mem_singleton.mp hmark) hslash
  · have hslashed : c ∈ withSlashes path :=
      mem_of_mem_splitAt (resolve_subset _ _ hsegment) hc
    exact (mem_map_ite hslashed).resolve_left hslash

/-- The segments of a normal form are settled. -/
theorem exists_settled_resolved (path : List Char) :
    ∃ climbs names, Settled climbs names (resolved path) ∧ (isRooted path = true → climbs = 0) :=
  exists_settled_resolve fun _ => withinSegment_of_mem_segmentsOf

/-- The directory of a path: the resolved segments in front of the last slash. -/
def directory (path : List Char) : List (List Char) :=
  resolve (isRooted path) (segmentsOf path).dropLast

/-- The file name of a path: what stands behind its last slash. -/
def fileName (path : List Char) : List Char := (segmentsOf path).getLastD []

theorem segmentsOf_ne_nil (path : List Char) : segmentsOf path ≠ [] := splitAt_ne_nil '/' _

theorem dropLast_append_fileName (path : List Char) :
    (segmentsOf path).dropLast ++ [fileName path] = segmentsOf path :=
  dropLast_append_lastPiece '/' _

theorem fileName_withinSegment (path : List Char) : WithinSegment (fileName path) := by
  have hmem : fileName path ∈ segmentsOf path := by
    rw [← dropLast_append_fileName]
    exact List.mem_append_right _ (List.mem_singleton_self _)
  exact withinSegment_of_mem_segmentsOf hmem

/-- A text behind a path lengthens its last segment by its own first one. -/
theorem segmentsOf_append_cons (path : List Char) {ext first : List Char} {rest : List (List Char)}
    (h : segmentsOf ext = first :: rest) :
    segmentsOf (path ++ ext) = (segmentsOf path).dropLast ++ (fileName path ++ first) :: rest := by
  rw [segmentsOf, withSlashes, List.map_append]
  exact splitAt_append_cons h (withSlashes path)

/-- A text within a segment lengthens the last segment of the path it is put behind. -/
theorem segmentsOf_append (path : List Char) {ext : List Char} (h : WithinSegment ext) :
    segmentsOf (path ++ ext) = (segmentsOf path).dropLast ++ [fileName path ++ ext] := by
  apply segmentsOf_append_cons
  rw [segmentsOf, withSlashes_eq_self h.2, splitAt_of_not_mem h.1]

theorem fileName_append (path : List Char) {ext : List Char} (h : WithinSegment ext) :
    fileName (path ++ ext) = fileName path ++ ext := by
  rw [fileName, segmentsOf_append path h, List.getLastD_concat]

theorem directory_append (path : List Char) {ext : List Char} (h : WithinSegment ext) :
    directory (path ++ ext) = directory path := by
  have hrooted : isRooted (path ++ ext) = isRooted path := by
    cases path with
    | cons c path => rfl
    | nil =>
      rw [List.nil_append, isRooted, withSlashes_eq_self h.2]
      cases ext with
      | nil => rfl
      | cons c ext =>
        exact beq_eq_false_iff_ne.mpr fun he => h.1 (Option.some.inj he ▸ List.mem_cons_self ..)
  rw [directory, directory, segmentsOf_append path h, List.dropLast_concat, hrooted]

/-- A text behind a path does not change where the path begins. -/
theorem isRooted_append {path : List Char} (h : path ≠ []) (ext : List Char) :
    isRooted (path ++ ext) = isRooted path := by
  obtain ⟨c, path, rfl⟩ := List.exists_cons_of_ne_nil h
  rfl

/-- Every directory is settled. -/
theorem exists_settled_directory (path : List Char) :
    ∃ climbs names, Settled climbs names (directory path) := by
  have hwithin : ∀ segment ∈ (segmentsOf path).dropLast, WithinSegment segment :=
    fun segment hs => withinSegment_of_mem_segmentsOf (List.dropLast_subset _ hs)
  obtain ⟨climbs, names, h, -⟩ := exists_settled_resolve hwithin
  exact ⟨climbs, names, h⟩

/-- A rooted path begins with an empty segment. -/
theorem nil_mem_segmentsOf_of_isRooted {path : List Char} (h : isRooted path = true) :
    [] ∈ segmentsOf path := by
  obtain ⟨rest, hrest⟩ := List.head?_eq_some_iff.mp (beq_iff_eq.mp h)
  rw [segmentsOf, hrest, splitAt, if_pos rfl]
  exact List.mem_cons_self ..

/-- A slash at the end of a path closes an empty segment. -/
theorem segmentsOf_concat_slash (path : List Char) :
    segmentsOf (path ++ ['/']) = segmentsOf path ++ [[]] := by
  rw [segmentsOf, withSlashes, List.map_append]
  exact splitAt_append_mark '/' (withSlashes path) []

/-- A slash between two paths separates their segments. -/
theorem segmentsOf_append_slash (s t : List Char) :
    segmentsOf (s ++ '/' :: t) = segmentsOf s ++ segmentsOf t := by
  rw [segmentsOf, withSlashes, List.map_append, List.map_cons]
  exact splitAt_append_mark '/' (withSlashes s) (withSlashes t)

/-- Slashes at the end of a path do not count. -/
theorem resolve_segmentsOf_dropSlashes (rooted : Bool) (path : List Char) :
    resolve rooted (segmentsOf (dropEndWhile (· = '/') path)) =
      resolve rooted (segmentsOf path) := by
  induction path using List.reverseRecOn with
  | nil => rfl
  | append_singleton path c ih =>
    by_cases hc : c = '/'
    · rw [hc, dropEndWhile_append (by simp), ih, segmentsOf_concat_slash, resolve_concat_nil]
    · rw [dropEndWhile_mark_eq_self]
      rw [List.getLast?_concat]
      exact fun he => hc (Option.some.inj he)

/-- A path with a file name does not end with a slash. -/
theorem getLast?_ne_slash {path : List Char} (h : fileName path ≠ []) :
    path.getLast? ≠ some '/' := by
  intro he
  obtain ⟨front, rfl⟩ := List.getLast?_eq_some_iff.mp he
  rw [fileName, segmentsOf_concat_slash, List.getLastD_concat] at h
  exact h rfl

/-- A path that ends with a name is resolved to its directory and that name. -/
theorem resolved_of_isName {path : List Char} (h : IsName (fileName path)) :
    resolved path = directory path ++ [fileName path] := by
  rw [resolved, ← dropLast_append_fileName, resolve_concat h, directory]

/-- It is normalized to these joined. -/
theorem normalize_of_isName {path : List Char} (h : IsName (fileName path)) :
    normalize path = joinWith ['/'] (directory path ++ [fileName path]) := by
  rw [normalize_eq, if_neg fun hc => getLast?_ne_slash h.ne_nil hc.1, resolved_of_isName h]

/-- Segments without slashes are recovered from the path they are joined to. -/
theorem segmentsOf_joinWith {segments : List (List Char)} (hne : segments ≠ [])
    (h : ∀ segment ∈ segments, WithinSegment segment) :
    segmentsOf (joinWith ['/'] segments) = segments := by
  have hback : '\\' ∉ joinWith ['/'] segments :=
    not_mem_joinWith (by decide) fun segment hs => (h segment hs).2
  rw [segmentsOf, withSlashes_eq_self hback,
    splitAt_joinWith hne fun segment hs => (h segment hs).1]

section Settled

variable {climbs : Nat} {names segments : List (List Char)}

theorem Settled.segmentsOf_eq (h : Settled climbs names segments) (hne : segments ≠ []) :
    segmentsOf (joinWith ['/'] segments) = segments :=
  segmentsOf_joinWith hne fun _ => h.withinSegment

/-- Settled segments are joined to a path that is not rooted. -/
theorem Settled.isRooted_eq (h : Settled climbs names segments) :
    isRooted (joinWith ['/'] segments) = false := by
  by_cases hne : segments = []
  · rw [hne]
    rfl
  · refine Bool.eq_false_iff.mpr fun hr => ?_
    have hnil := nil_mem_segmentsOf_of_isRooted hr
    rw [h.segmentsOf_eq hne] at hnil
    exact h.ne_nil hnil rfl

theorem Settled.resolved_eq (h : Settled climbs names segments) :
    resolved (joinWith ['/'] segments) = segments := by
  by_cases hne : segments = []
  · rw [hne]
    rfl
  · rw [resolved, h.isRooted_eq, h.segmentsOf_eq hne, h.resolve_eq]

/-- Settled segments are joined to a path without a slash at its end. -/
theorem Settled.getLast?_ne (h : Settled climbs names segments) :
    (joinWith ['/'] segments).getLast? ≠ some '/' := by
  by_cases hne : segments = []
  · rw [hne]
    exact nofun
  · have hfile : fileName (joinWith ['/'] segments) ≠ [] := by
      rw [fileName, h.segmentsOf_eq hne, List.getLastD_eq_getLast?,
        List.getLast?_eq_some_getLast hne, Option.getD_some]
      exact h.ne_nil (List.getLast_mem hne)
    exact getLast?_ne_slash hfile

/-- Nor does one stand at its beginning. -/
theorem Settled.head?_ne (h : Settled climbs names segments) :
    (joinWith ['/'] segments).head? ≠ some '/' := by
  intro hhead
  obtain ⟨rest, hrest⟩ := List.head?_eq_some_iff.mp hhead
  have hrooted := h.isRooted_eq
  rw [hrest] at hrooted
  exact Bool.false_ne_true hrooted.symm

/-- Settled segments are joined to a path in normal form. -/
theorem Settled.normalize_eq (h : Settled climbs names segments) :
    normalize (joinWith ['/'] segments) = joinWith ['/'] segments := by
  rw [Path.normalize_eq, if_neg fun hc => h.getLast?_ne hc.1, h.resolved_eq]

/-- The same with a closing slash. -/
theorem Settled.normalize_concat_eq (h : Settled climbs names segments) (hne : segments ≠ []) :
    normalize (joinWith ['/'] segments ++ ['/']) = joinWith ['/'] segments ++ ['/'] := by
  have hjoin : joinWith ['/'] segments ≠ [] := joinWith_ne_nil hne fun _ => h.ne_nil
  have hrooted : isRooted (joinWith ['/'] segments ++ ['/']) = false := by
    rw [isRooted_append hjoin, h.isRooted_eq]
  have hresolved : resolved (joinWith ['/'] segments ++ ['/']) = segments := by
    rw [resolved, hrooted, segmentsOf_concat_slash, h.segmentsOf_eq hne, resolve_concat_nil,
      h.resolve_eq]
  rw [Path.normalize_eq, hresolved, if_pos ⟨List.getLast?_concat, hjoin⟩]

end Settled

/-- The directory is a part of the path at its front. -/
theorem parent_isPrefix (path : List Char) : parent path <+: path := by
  have hhead : dropEndWhile (· ≠ '/') path <+: path := dropEndWhile_isPrefix _ _
  rw [parent]
  split
  · exact hhead
  · exact (dropEndWhile_isPrefix _ _).trans hhead

/-- A file name has no directory in front of it. -/
theorem parent_of_not_mem {file : List Char} (h : '/' ∉ file) : parent file = [] := by
  have hfile : ∀ c ∈ file, decide (c ≠ '/') = true := fun c hc =>
    decide_eq_true fun he => h (he ▸ hc)
  have hhead := dropEndWhile_append hfile []
  rw [List.nil_append] at hhead
  rw [parent, hhead]
  rfl

/-- The directory of a file is what stands in front of the slashes before its name. -/
theorem parent_append_file {front file : List Char} (h : '/' ∉ file) (hne : front ≠ [])
    (hhead : front.head? ≠ some '/') :
    parent (front ++ '/' :: file) = dropEndWhile (· = '/') front := by
  have hfile : ∀ c ∈ file, decide (c ≠ '/') = true := fun c hc =>
    decide_eq_true fun he => h (he ▸ hc)
  have hfront : dropEndWhile (· ≠ '/') (front ++ '/' :: file) = front ++ ['/'] := by
    rw [← List.singleton_append, ← List.append_assoc, dropEndWhile_append hfile]
    apply dropEndWhile_eq_self
    intro c hc
    rw [List.getLast?_concat] at hc
    rw [← Option.some.inj hc]
    rfl
  have hslashes : ¬ ((front ++ ['/']).all fun c => decide (c = '/')) = true := by
    obtain ⟨c, rest, rfl⟩ := List.exists_cons_of_ne_nil hne
    intro hall
    have hc := List.all_eq_true.mp hall c (List.mem_cons_self ..)
    exact hhead (congrArg some (of_decide_eq_true hc))
  rw [parent]
  simp only [hfront]
  rw [if_neg hslashes, dropEndWhile_append (by simp)]

/-- Without a slash at its end the directory stays as it is. -/
theorem parent_append_slash {dir file : List Char} (h : '/' ∉ file) (hne : dir ≠ [])
    (hhead : dir.head? ≠ some '/') (hlast : dir.getLast? ≠ some '/') :
    parent (dir ++ '/' :: file) = dir := by
  rw [parent_append_file h hne hhead, dropEndWhile_mark_eq_self hlast]

/-- Normalization is stable. -/
theorem normalize_normalize (path : List Char) : normalize (normalize path) = normalize path := by
  obtain ⟨climbs, names, h, -⟩ := exists_settled_resolved path
  rw [normalize_eq path]
  split
  · rename_i hc
    refine h.normalize_concat_eq fun he => hc.2 ?_
    rw [he]
    rfl
  · exact h.normalize_eq

/-- Leaving the book takes a segment that climbs. -/
theorem up_mem_of_escapesRoot {path : List Char} (h : escapesRoot path = true) :
    up ∈ splitAt '/' path := by
  have hup : '/' ∉ up := up_withinSegment.1
  rw [escapesRoot, Bool.or_eq_true, Bool.or_eq_true, beq_iff_eq, List.isPrefixOf_iff_prefix,
    contains_iff_infix] at h
  rcases h with (rfl | ⟨rest, rfl⟩) | ⟨front, rest, rfl⟩
  · rw [splitAt_of_not_mem hup]
    exact List.mem_singleton_self up
  · rw [List.append_assoc, List.singleton_append, splitAt_append_mark, splitAt_of_not_mem hup]
    exact List.mem_cons_self ..
  · have heq : front ++ (['/'] ++ up ++ ['/']) ++ rest = front ++ '/' :: (up ++ '/' :: rest) := by
      simp only [List.append_assoc, List.cons_append, List.nil_append]
    rw [heq, splitAt_append_mark, splitAt_append_mark, splitAt_of_not_mem hup]
    exact List.mem_append_right _ (List.mem_cons_self ..)

/-- A path of names stays in the book. -/
theorem escapesRoot_joinWith {names : List (List Char)} (hne : names ≠ [])
    (h : ∀ name ∈ names, IsName name) : escapesRoot (joinWith ['/'] names) = false := by
  refine Bool.eq_false_iff.mpr fun he => ?_
  have hup := up_mem_of_escapesRoot he
  rw [splitAt_joinWith hne fun name hn => (h name hn).no_slash] at hup
  exact (h up hup).ne_up rfl

end Folio.Path
