import Folio.Proofs.Footnote.Numbering

/-!
# Pieces with their references replaced

A stream is cut at the same markers before and after its references are replaced, and what a piece
becomes depends on it and on the references in front of it. So each superscript stands in one piece,
and which ids a piece holds is read off the names of references.
-/

namespace Folio.Footnote

section Linking

theorem length_linkAll (usages : List Usage) (stream : List Token) :
    (linkAll usages stream).1.length = stream.length :=
  (linkAll_forall₂ usages stream).length_eq.symm

/-- The tokens in front of a segment that can hold references, given the segments in front of it. -/
def Pieces.inFront (pieces : Pieces) (front : List Segment) : List Token :=
  pieces.head ++ front.flatMap Segment.body

/-- A segment with its references replaced, counted on from given usages. -/
def Segment.linked (usages : List Usage) (segment : Segment) : Segment :=
  ⟨segment.marker, (linkAll usages segment.body).1⟩

theorem ne_inline_of_isMarker {token : Token} (h : isMarker token = true) :
    token.kind ≠ .inline := by
  intro hinline
  rw [isMarker, hinline] at h
  exact absurd h (by decide)

/-- Replacing references and cutting at the markers can be done in either order. -/
theorem cut_linkAll (usages : List Usage) (stream : List Token) :
    cut (linkAll usages stream).1 =
      ⟨(linkAll usages (cut stream).head).1,
        (withEarlier (cut stream).segments).map fun place =>
          place.2.linked (linkAll usages ((cut stream).inFront place.1)).2⟩ := by
  induction stream generalizing usages with
  | nil => rfl
  | cons token rest ih =>
    rw [linkAll, cut, cut, isMarker, isMarker, linkReferences_kind]
    split
    · rename_i hmarker
      rw [linkReferences_of_ne (ne_inline_of_isMarker hmarker), ih, withEarlier_cons]
      simp only [List.map_cons, List.map_map]
      rfl
    · rw [ih]
      rfl

variable (stream : List Token)

theorem occurrences_countAll (usages : List Usage) (names : List String) (name : String) :
    occurrences (countAll usages names).2 name = occurrences usages name + names.count name := by
  induction names generalizing usages with
  | nil => rfl
  | cons first names ih =>
    rw [countAll, ih, occurrences_countReference, Nat.add_assoc, ← List.count_append,
      List.singleton_append]

/-- What has been counted behind a stream are its references. -/
theorem occurrences_linkAll (name : String) :
    occurrences (linkAll [] stream).2 name = (referenceNames stream).count name := by
  rw [(linkAll_eq_countAll [] stream).2, occurrences_countAll]
  exact Nat.zero_add _

/-- The ids of the superscripts in a part of a stream, given what stands in front of it. -/
def partIds (earlier part : List Token) : List String :=
  (superscripts part (linkAll (linkAll [] earlier).2 part).1).map superscriptId

theorem partIds_nil (stream : List Token) :
    partIds [] stream = (superscripts stream (linkAll [] stream).1).map superscriptId := rfl

/-- No two superscripts in a part of a stream share an id. -/
theorem nodup_partIds (earlier part : List Token) : (partIds earlier part).Nodup := by
  rw [partIds, map_superscriptId]
  exact nodup_map_id_countAll _ _

/-- The reference with a given number among those to a name stands in a part of a stream, given what
stands in front of it. -/
structure Holds (earlier part : List Token) (name : String) (occurrence : Nat) : Prop where
  behind : (referenceNames earlier).count name < occurrence
  within : occurrence ≤ (referenceNames (earlier ++ part)).count name

/-- A part of a stream holds the ids of its references. -/
theorem mem_partIds {earlier part : List Token} {name : String} {occurrence : Nat} :
    referenceId name occurrence ∈ partIds earlier part ↔ Holds earlier part name occurrence := by
  have hcount : (referenceNames (earlier ++ part)).count name =
      (referenceNames earlier).count name + (referenceNames part).count name := by
    rw [referenceNames, List.flatMap_append, List.count_append]
    rfl
  have hmem : (∃ usage ∈ (countAll (linkAll [] earlier).2 (referenceNames part)).1,
        usage.name = name ∧ usage.count = occurrence) ↔
      (referenceNames earlier).count name < occurrence ∧
        occurrence ≤ (referenceNames (earlier ++ part)).count name := by
    rw [exists_mem_countAll_iff, occurrences_linkAll, hcount]
  rw [partIds, map_superscriptId, List.mem_map]
  constructor
  · rintro ⟨usage, husage, hid⟩
    obtain ⟨hname, hoccurrence⟩ := referenceId_inj.mp hid
    obtain ⟨hbehind, hwithin⟩ := hmem.mp ⟨usage, husage, hname, hoccurrence⟩
    exact ⟨hbehind, hwithin⟩
  · rintro ⟨hbehind, hwithin⟩
    obtain ⟨usage, husage, rfl, rfl⟩ := hmem.mpr ⟨hbehind, hwithin⟩
    exact ⟨usage, husage, rfl⟩

/-- Only references have ids in a part of a stream. -/
theorem exists_of_mem_partIds {earlier part : List Token} {id : String}
    (h : id ∈ partIds earlier part) : ∃ name occurrence, id = referenceId name occurrence := by
  rw [partIds, map_superscriptId] at h
  obtain ⟨usage, -, rfl⟩ := List.mem_map.mp h
  exact ⟨usage.name, usage.count, rfl⟩

end Linking

section Parts

theorem superscripts_append {first linked : List Token} (h : first.length = linked.length)
    (second linked' : List Token) :
    superscripts (first ++ second) (linked ++ linked') =
      superscripts first linked ++ superscripts second linked' := by
  rw [superscripts, List.zip_append h, List.flatMap_append, superscripts, superscripts]

theorem superscripts_flatMap {α : Type} {xs : List α} {parts linked : α → List Token}
    (h : ∀ x ∈ xs, (parts x).length = (linked x).length) :
    superscripts (xs.flatMap parts) (xs.flatMap linked) =
      xs.flatMap fun x => superscripts (parts x) (linked x) := by
  induction xs with
  | nil => rfl
  | cons x xs ih =>
    rw [List.flatMap_cons, List.flatMap_cons, List.flatMap_cons,
      superscripts_append (h x List.mem_cons_self),
      ih fun y hy => h y (List.mem_cons_of_mem _ hy)]

/-- No superscript stands at a marker. -/
theorem superscripts_marker {marker : Token} (h : isMarker marker = true)
    (body linked : List Token) :
    superscripts (marker :: body) (marker :: linked) = superscripts body linked := by
  rw [superscripts, List.zip_cons_cons, List.flatMap_cons, tokenSuperscripts,
    if_neg (ne_inline_of_isMarker h), List.nil_append, superscripts]

variable (stream : List Token)

/-- The segments of a stream, each with those in front of it. -/
def places : List (List Segment × Segment) := withEarlier (cut stream).segments

/-- The ids of the superscripts in the body of a segment. -/
def placeIds (place : List Segment × Segment) : List String :=
  partIds ((cut stream).inFront place.1) place.2.body

/-- The segment at a place with its references replaced. -/
def linkedAt (place : List Segment × Segment) : Segment :=
  place.2.linked (linkAll [] ((cut stream).inFront place.1)).2

theorem length_linkedAt (place : List Segment × Segment) :
    place.2.body.length = (linkedAt stream place).body.length :=
  (length_linkAll _ _).symm

/-- A segment goes on being a definition, of the same name. -/
theorem definition?_linkedAt (place : List Segment × Segment) :
    (linkedAt stream place).definition? =
      place.2.definition?.map fun definition =>
        ⟨definition.name, (linkedAt stream place).body⟩ := by
  have hmarker : (linkedAt stream place).marker = place.2.marker := rfl
  rw [Segment.definition?, Segment.definition?, hmarker]
  split <;> rfl

theorem cut_linked :
    cut (linkAll [] stream).1 =
      ⟨(linkAll [] (cut stream).head).1, (places stream).map (linkedAt stream)⟩ :=
  cut_linkAll [] stream

theorem map_snd_places : (places stream).map Prod.snd = (cut stream).segments :=
  map_snd_withEarlier _

theorem isMarker_of_mem_places {place : List Segment × Segment} (h : place ∈ places stream) :
    isMarker place.2.marker = true := by
  have hsegment : place.2 ∈ (cut stream).segments := by
    rw [← map_snd_places]
    exact List.mem_map_of_mem h
  exact (isCut_cut stream).marker place.2 hsegment

/-- A stream is made up of its places. -/
theorem eq_append_places :
    stream = (cut stream).head ++
      (places stream).flatMap fun place => place.2.marker :: place.2.body := by
  rw [← List.flatMap_map Prod.snd (fun segment : Segment => segment.marker :: segment.body),
    map_snd_places]
  exact (isCut_cut stream).eq_append

/-- So is the stream with its references replaced. -/
theorem linked_eq_append_places :
    (linkAll [] stream).1 = (linkAll [] (cut stream).head).1 ++
      (places stream).flatMap fun place => place.2.marker :: (linkedAt stream place).body := by
  have happend := (isCut_cut (linkAll [] stream).1).eq_append
  rw [cut_linked] at happend
  rw [happend, List.flatMap_map]
  rfl

/-- Every superscript stands in front of all markers or in the body of one segment. -/
theorem partIds_eq_places :
    partIds [] stream =
      partIds [] (cut stream).head ++ (places stream).flatMap (placeIds stream) := by
  have hbodies : ∀ place ∈ places stream,
      (place.2.marker :: place.2.body).length =
        (place.2.marker :: (linkedAt stream place).body).length := by
    intro place _
    rw [List.length_cons, List.length_cons, length_linkedAt]
  have hparts : superscripts stream (linkAll [] stream).1 =
      superscripts (cut stream).head (linkAll [] (cut stream).head).1 ++
        (places stream).flatMap fun place =>
          superscripts place.2.body (linkedAt stream place).body := by
    calc superscripts stream (linkAll [] stream).1
      _ = superscripts
            ((cut stream).head ++
              (places stream).flatMap fun place => place.2.marker :: place.2.body)
            ((linkAll [] (cut stream).head).1 ++
              (places stream).flatMap fun place =>
                place.2.marker :: (linkedAt stream place).body) := by
        rw [← linked_eq_append_places, ← eq_append_places]
      _ = superscripts (cut stream).head (linkAll [] (cut stream).head).1 ++
            (places stream).flatMap fun place =>
              superscripts (place.2.marker :: place.2.body)
                (place.2.marker :: (linkedAt stream place).body) := by
        rw [superscripts_append (length_linkAll [] _).symm, superscripts_flatMap hbodies]
      _ = _ := by
        congr 1
        exact List.flatMap_congr fun place hplace =>
          superscripts_marker (isMarker_of_mem_places stream hplace) _ _
  rw [partIds_nil, hparts, List.map_append, List.map_flatMap]
  rfl

/-- The superscripts of the text stand in front of all markers or behind one that ends a
definition. -/
theorem textIds_eq :
    (superscripts (cut stream).text (Collector.collect {} stream).2).map superscriptId =
      partIds [] (cut stream).head ++
        (places stream).flatMap fun place =>
          if place.2.definition?.isSome then [] else placeIds stream place := by
  have htext : (cut stream).text = (cut stream).head ++
      (places stream).flatMap fun place =>
        if place.2.definition?.isSome then [] else place.2.body := by
    rw [Pieces.text, ← map_snd_places, List.flatMap_map]
  have hopen : ∀ place, (linkedAt stream place).definition?.isSome =
      place.2.definition?.isSome := by
    intro place
    rw [definition?_linkedAt, Option.isSome_map]
  have hcollected : (Collector.collect {} stream).2 = (linkAll [] (cut stream).head).1 ++
      (places stream).flatMap fun place =>
        if place.2.definition?.isSome then [] else (linkedAt stream place).body := by
    rw [collect_linked, cut_linked, Pieces.text, List.flatMap_map]
    simp only [hopen]
  have hbodies : ∀ place ∈ places stream,
      (if place.2.definition?.isSome then [] else place.2.body).length =
        (if place.2.definition?.isSome then [] else (linkedAt stream place).body).length := by
    intro place _
    split
    · rfl
    · exact length_linkedAt stream place
  rw [htext, hcollected, superscripts_append (length_linkAll [] _).symm,
    superscripts_flatMap hbodies, List.map_append, List.map_flatMap]
  congr 1
  refine List.flatMap_congr fun place _ => ?_
  split
  · rfl
  · rfl

end Parts

section Kept

/-- The names of the definitions among segments. -/
def definedNames (segments : List Segment) : List String :=
  names (segments.filterMap Segment.definition?)

variable (stream : List Token)

/-- Replacing references leaves the names of definitions as they are. -/
theorem names_linkedAt (front : List Segment) :
    names (((withEarlier front).map (linkedAt stream)).filterMap Segment.definition?) =
      definedNames front := by
  have hname : ∀ place, (linkedAt stream place).definition?.map (·.name) =
      place.2.definition?.map (·.name) := by
    intro place
    rw [definition?_linkedAt, Option.map_map]
    rfl
  calc names (((withEarlier front).map (linkedAt stream)).filterMap Segment.definition?)
    _ = (withEarlier front).filterMap fun place => place.2.definition?.map (·.name) := by
      rw [names, List.map_filterMap, List.filterMap_map]
      exact List.filterMap_congr fun place _ => hname place
    _ = (((withEarlier front).map Prod.snd).filterMap fun segment =>
          segment.definition?.map (·.name)) := by rw [List.filterMap_map]; rfl
    _ = definedNames front := by
      rw [map_snd_withEarlier, definedNames, names, List.map_filterMap]

/-- The definitions that have ended once references are replaced. -/
theorem ended_cut_linked :
    ended (cut (linkAll [] stream).1).segments =
      ((withEarlier (cut stream).segments.dropLast).map (linkedAt stream)).filterMap
        Segment.definition? := by
  rw [ended, cut_linked, places, withEarlier_dropLast, List.map_dropLast]

/-- A name is kept exactly if a definition with it has ended. -/
theorem mem_names_definitions {name : String} :
    name ∈ names (Collector.collect {} stream).1.definitions ↔
      name ∈ names (ended (cut stream).segments) := by
  have hnames : names (ended (cut (linkAll [] stream).1).segments) =
      names (ended (cut stream).segments) := by
    rw [ended_cut_linked, names_linkedAt]
    rfl
  rw [collect_linked, ← hnames]
  exact mem_names_firsts

/-- The definitions kept are those of the ended segments whose name none before them has. -/
theorem definitions_collect :
    (Collector.collect {} stream).1.definitions =
      (withEarlier (cut stream).segments.dropLast).filterMap fun place =>
        (linkedAt stream place).definition?.filter fun definition =>
          definition.name ∉ definedNames place.1 := by
  rw [collect_linked]
  simp only [Pieces.collector, ended_cut_linked]
  induction (cut stream).segments.dropLast using List.reverseRecOn with
  | nil => rfl
  | append_singleton front segment ih =>
    rw [withEarlier_concat, List.map_append, List.filterMap_append, List.filterMap_append, ← ih]
    cases hdefinition : (linkedAt stream (front, segment)).definition? with
    | none => simp [hdefinition]
    | some definition =>
      have hlast : ([(front, segment)].map (linkedAt stream)).filterMap Segment.definition? =
          [definition] := by simp [hdefinition]
      rw [hlast, firsts_concat, names_linkedAt]
      by_cases h : definition.name ∈ definedNames front
      · simp [hdefinition, h]
      · simp [Option.filter_some, hdefinition, h]

/-- A place in a stream where a definition stands that is kept: a later marker ends it, and no
definition before it has its name. -/
structure IsKeptAt (definition : Definition) (front : List Segment) (segment : Segment)
    (back : List Segment) : Prop where
  split : (cut stream).segments = front ++ segment :: back
  ended : back ≠ []
  first : definition.name ∉ definedNames front
  linked : (linkedAt stream (front, segment)).definition? = some definition

theorem mem_definitions_collect {definition : Definition} :
    definition ∈ (Collector.collect {} stream).1.definitions ↔
      ∃ front segment back, IsKeptAt stream definition front segment back := by
  rw [definitions_collect, List.mem_filterMap]
  constructor
  · rintro ⟨⟨front, segment⟩, hplace, hdefinition⟩
    obtain ⟨later, hsegments⟩ := mem_withEarlier_iff.mp hplace
    obtain ⟨hdefinition, hfirst⟩ := Option.filter_eq_some_iff.mp hdefinition
    have hne : (cut stream).segments ≠ [] := by
      intro hnil
      rw [hnil] at hsegments
      simp at hsegments
    have hsplit := List.dropLast_append_getLast hne
    rw [hsegments] at hsplit
    exact ⟨front, segment, later ++ [(cut stream).segments.getLast hne],
      hsplit.symm.trans (by simp), by simp, by simpa using hfirst, hdefinition⟩
  · rintro ⟨front, segment, back, hkept⟩
    refine ⟨(front, segment), mem_withEarlier_iff.mpr ⟨back.dropLast, ?_⟩, ?_⟩
    · rw [hkept.split, List.dropLast_append_of_ne_nil (List.cons_ne_nil _ _),
        List.dropLast_cons_of_ne_nil hkept.ended]
    · rw [Option.filter_eq_some_iff]
      exact ⟨hkept.linked, by simpa using hkept.first⟩

end Kept

end Folio.Footnote
