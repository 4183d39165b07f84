import ShellSuite.Proofs.Config.Valid
import ShellSuite.Proofs.Directive.RoundTrip
import ShellSuite.Proofs.Path

set_option autoImplicit false
set_option relaxedAutoImplicit false

/-!
Which settings can have an effect. A suffix can end the name of a test only if it has no dot and no
slash inside, since the extension of a file stands behind the last dot of its name. A marker can
introduce a directive only if it has no blank in front and no line feed. Neither is asked for when
settings are checked.
-/

namespace ShellSuite

namespace Path

private theorem eq_of_innerComponent? {piece name : String}
    (h : innerComponent? piece = some (.name name)) :
    piece = name := by
  unfold innerComponent? at h
  split at h
  · cases h
  split at h
  · cases h
  · exact Component.name.inj (Option.some.inj h)

private theorem eq_of_firstComponent? {more : Bool} {piece name : String}
    (h : firstComponent? more piece = some (.name name)) : piece = name := by
  unfold firstComponent? at h
  split at h
  · split at h <;> cases h
  split at h
  · cases h
  · exact eq_of_innerComponent? h

private theorem mem_pieces_of_mem_components {p : Path} {name : String}
    (h : .name name ∈ p.components) :
    name ∈ p.pieces := by
  obtain ⟨first, rest, hpieces⟩ := exists_pieces p
  simp only [components, hpieces, List.mem_append, Option.mem_toList, List.mem_filterMap] at h
  rw [hpieces]
  rcases h with h | ⟨piece, hpiece, h⟩
  · rw [eq_of_firstComponent? h]
    exact List.mem_cons_self
  · rw [← eq_of_innerComponent? h]
    exact List.mem_cons_of_mem _ hpiece

private theorem no_slash_of_fileName {p : Path} {name : String} (h : p.fileName = some name) :
    '/' ∉ name.toList := by
  have hlast : p.components.getLast? = some (.name name) := by
    unfold fileName at h
    split at h
    next n hn => rw [hn, Option.some.inj h]
    next => cases h
  have hpiece := mem_pieces_of_mem_components (List.mem_of_getLast? hlast)
  obtain ⟨piece, hmem, rfl⟩ := List.mem_map.mp hpiece
  rw [String.toList_ofList]
  intro hslash
  exact absurd (Text.cut_eq_false_of_mem hmem hslash) (by decide)

private theorem extensionOf_eq_some {name ext : String} (h : extensionOf name = some ext) :
    '.' ∉ ext.toList ∧ ext.toList ⊆ name.toList := by
  unfold extensionOf at h
  split at h
  next before after hcut =>
    split at h
    · cases h
    · obtain rfl := Option.some.inj h
      obtain ⟨⟨front, back⟩, hfirst, hpair⟩ := Option.map_eq_some_iff.mp hcut
      obtain ⟨-, rfl⟩ := Prod.mk.inj hpair
      obtain ⟨hchars, hdot⟩ := Text.cutFirst_eq_some hfirst
      rw [String.toList_ofList]
      refine ⟨by simpa using hdot, ?_⟩
      intro c hc
      rw [← List.mem_reverse, hchars]
      exact List.mem_append_left _ (List.mem_reverse.mp hc)
  next => cases h

private theorem extensionOf_dotted {ext : String} (h : '.' ∉ ext.toList) :
    extensionOf ("a." ++ ext) = some ext := by
  have hcut : Text.cutLast '.' ("a." ++ ext).toList = some (['a'], ext.toList) := by
    have hreverse : ("a." ++ ext).toList.reverse = ext.toList.reverse ++ '.' :: ['a'] := by simp
    rw [Text.cutLast, hreverse, Text.cutFirst_append_cons (by simpa using h)]
    simp
  rw [extensionOf, hcut]
  simp

private theorem exists_extension_iff {ext : String} :
    (∃ p : Path, p.extension = some ext) ↔ '.' ∉ ext.toList ∧ '/' ∉ ext.toList := by
  constructor
  · rintro ⟨p, hp⟩
    obtain ⟨name, hname, hext⟩ := Option.bind_eq_some_iff.mp hp
    obtain ⟨hdot, hsubset⟩ := extensionOf_eq_some hext
    exact ⟨hdot, fun hslash => no_slash_of_fileName hname (hsubset hslash)⟩
  · rintro ⟨hdot, hslash⟩
    have hne {other : String} (h : other.toList.head? ≠ some 'a') : "a." ++ ext ≠ other := by
      rintro rfl
      exact h (by simp)
    have hname : IsName ("a." ++ ext) :=
      ⟨hne (by decide), hne (by decide), hne (by decide), by simpa using hslash⟩
    refine ⟨(⟨"d"⟩ : Path).child ("a." ++ ext), ?_⟩
    rw [extension_child hname, extensionOf_dotted hdot]

end Path

namespace Directive

private theorem isMarker_of_matchLine {marker : String} (hne : marker ≠ "") {line : List Char}
    (hline : '\n' ∉ line) {found : Kind × List Char}
    (h : matchLine marker.toList line = some found) : IsMarker marker := by
  -- a line that starts a directive has no blank in front of the marker, since blanks in front of a
  -- line are dropped, and the marker stands in that line
  obtain ⟨rest, hrest, -⟩ := Option.bind_eq_some_iff.mp h
  rw [Text.dropFront?_eq_some_iff] at hrest
  refine ⟨hne, ?_, ?_⟩
  · intro c hc
    have hhead := List.head?_dropWhile_not Text.isBlank line
    have hfront : (line.dropWhile Text.isBlank).head? = some c := by
      have hchars : marker.toList ≠ [] := by simpa using hne
      change (Text.dropBlanks line).head? = some c
      rw [hrest, List.head?_append_of_ne_nil _ hchars]
      exact hc
    simpa [hfront] using hhead
  · intro hfeed
    refine hline (Text.dropBlanks_subset line ?_)
    rw [hrest]
    exact List.mem_append_left _ hfeed

private theorem parseLines_of_forall_none {marker : List Char} {lines : List (List Char)}
    (h : ∀ line ∈ lines, matchLine marker line = none) (n : Nat) :
    parseLines marker n none lines = .ok [] := by
  induction lines generalizing n with
  | nil => rfl
  | cons line lines ih =>
    rw [List.forall_mem_cons] at h
    simp only [parseLines, h.1]
    exact ih h.2 (n + 1)

private theorem exists_directive_iff {marker : String} (hne : marker ≠ "") :
    (∃ contents ds, parse contents marker = .ok ds ∧ ds ≠ []) ↔ IsMarker marker := by
  constructor
  · rintro ⟨contents, ds, hparse, hds⟩
    obtain ⟨line, hline, hmatch⟩ : ∃ line ∈ (Text.lines contents).map String.toList,
        matchLine marker.toList line ≠ none := by
      by_contra hnone
      simp only [not_exists, not_and, ne_eq, not_not] at hnone
      rw [parse, parseLines_of_forall_none hnone] at hparse
      exact hds (Except.ok.inj hparse).symm
    obtain ⟨text, htext, rfl⟩ := List.mem_map.mp hline
    obtain ⟨found, hfound⟩ := Option.ne_none_iff_exists'.mp hmatch
    exact isMarker_of_matchLine hne (Text.not_mem_of_mem_lines htext) hfound
  · intro hmarker
    have hfeed : '\n' ∉ (writtenLine marker .run "x").toList := by
      simpa [writtenLine_toList, Kind.keyword] using hmarker.oneLine
    have hlines : (Text.lines (writtenLine marker .run "x")).map String.toList =
        [(writtenLine marker .run "x").toList] := by
      have hjoin := Text.lines_join (List.forall_mem_singleton.mpr hfeed)
      rw [Text.join, String.intercalate_singleton, List.map_singleton, Text.reread] at hjoin
      rw [hjoin, writtenLine_toList]
      simp
    refine ⟨writtenLine marker .run "x", [⟨.run, "x", 1⟩], ?_, by simp⟩
    rw [parse, hlines]
    simp only [parseLines, matchLine_written hmarker]
    rfl

end Directive

namespace Config

private theorem isTestFile_merge_single (root dir file : Path) (o : Override) (s : String) :
    ((initial root).merge dir { o with suffixes := [s] }).isTestFile file ↔
      file.extension = some (Override.bareSuffix s) := by
  have hcontains (ext : String) :
      ((initial root).merge dir { o with suffixes := [s] }).suffixes.contains ext ↔
        ext = Override.bareSuffix s := by
    rw [Dict.contains_iff_mem_keys, Dict.mem_keys_iff]
    change ((extendNames o.clearSuffixes .empty [Override.bareSuffix s]).get? ext).isSome ↔ _
    rw [extendNames, ite_self, NameSet.get?_insertNames]
    simp only [List.mem_singleton]
    split
    next heq => simp [heq]
    next hne => simp [hne, Dict.empty, Dict.get?]
  rw [isTestFile, Option.any_eq_true]
  constructor
  · rintro ⟨ext, hext, hsuffix⟩
    rw [hext, (hcontains ext).mp hsuffix]
  · intro hext
    exact ⟨_, hext, (hcontains _).mpr rfl⟩

/-- The suffixes and markers of settings without a fault that can have an effect. A suffix of its
own makes some file a test if it has no dot behind those in front and no slash; some file has a
directive for the marker if that has no blank in front and no line feed. -/
theorem effective_iff {o : Override} (h : o.fault? = none) :
    (∀ s ∈ o.suffixes, ∀ root dir,
      (∃ file, ((initial root).merge dir { o with suffixes := [s] }).isTestFile file) ↔
        '.' ∉ (Override.bareSuffix s).toList ∧ '/' ∉ (Override.bareSuffix s).toList) ∧
    ∀ m ∈ o.commentMarker,
      (∃ contents ds, Directive.parse contents m = .ok ds ∧ ds ≠ []) ↔
        (∀ c ∈ m.toList.head?, Text.isBlank c = false) ∧ '\n' ∉ m.toList := by
  constructor
  · intro s _ root dir
    simp only [isTestFile_merge_single]
    exact Path.exists_extension_iff
  · intro m hm
    have hne : m ≠ "" := by
      rintro rfl
      exact absurd ((Override.fault?_eq_none_iff.mp h).marker "" hm) (by decide)
    rw [Directive.exists_directive_iff hne]
    exact ⟨fun hmarker => ⟨hmarker.front, hmarker.oneLine⟩, fun hm => ⟨hne, hm.1, hm.2⟩⟩

def marking (marker suffix : String) : Override :=
  { Override.empty with suffixes := [suffix], commentMarker := some marker }

theorem effective_iff_dotted :
    (marking "# -" "..t").fault? = none ∧
    (∀ root dir, ∃ file,
      ((initial root).merge dir (marking "# -" "..t")).isTestFile file) ∧
    ∃ contents ds, Directive.parse contents "# -" = .ok ds ∧ ds ≠ [] := by
  have hvalid : (marking "# -" "..t").fault? = none := by decide
  obtain ⟨hsuffix, hmarker⟩ := effective_iff hvalid
  refine ⟨hvalid, ?_, ?_⟩
  · intro root dir
    exact (hsuffix "..t" List.mem_cons_self root dir).mpr (by decide)
  · refine (hmarker "# -" rfl).mpr ⟨?_, by decide⟩
    rintro c ⟨⟩
    rfl

/-- Settings without a fault that are good for nothing: no file has the suffix as its extension, and
no line starts with a blank once its blanks are dropped. -/
theorem marking_without_effect :
    (marking " #" "tar.gz").fault? = none ∧
    (∀ root dir file,
      ¬ ((initial root).merge dir (marking " #" "tar.gz")).isTestFile file) ∧
    ∀ contents ds, Directive.parse contents " #" = .ok ds → ds = [] := by
  refine ⟨by decide, ?_, ?_⟩
  · intro root dir file hfile
    have hext := (isTestFile_merge_single root dir file (marking " #" "tar.gz") "tar.gz").mp hfile
    exact (Path.exists_extension_iff.mp ⟨file, hext⟩).1 (by decide)
  · intro contents ds hparse
    by_contra hds
    have hmarker := (Directive.exists_directive_iff (by decide)).mp ⟨contents, ds, hparse, hds⟩
    exact absurd (hmarker.front ' ' rfl) (by decide)

end Config

end ShellSuite
