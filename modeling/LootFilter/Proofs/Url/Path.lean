import LootFilter.Url.Path
import Mathlib.Data.List.Basic

/-!
# Paths of Web Addresses

A path that was read is in a form in which reading it again changes nothing. No segment
of it is one or two dots, since dots are followed when they are met, and no character in
it is dropped, escaped or taken for a slash. So a path can be continued by hand: what is
put behind its last slash comes out there as it was put in, if it is in that form too.

The form is that of a folder and a segment behind it. A folder is a list of segments, each
of them with its slash behind it, and the reader goes from folder to folder. A segment of two dots
drops the last segment of a folder, which leaves a folder, and so does a slash that
ends a segment. All of this is about the schemes of the web. The paths of files have drive
letters, which are written in two ways.

## Main definitions

* `Url.IsPlain`: A character stands in a path as it is.
* `Url.IsSegment`: A segment stands in a path as it is.
* `Url.IsFolder`, `Url.IsPath`: A path that ends in a slash, and any path.

## Theorems

* `Url.isPath_readSegments`: What is read is in the form.
* `Url.readSegments_folder`, `Url.readSegments_segment`: What is in the form is read as it is.
-/

namespace LootFilter

namespace Url

/-! ## Characters and segments -/

/-- The character stands in a path as it is, and it separates nothing. -/
def IsPlain (c : Char) : Prop :=
  isEscapedInPath c = false ∧ SchemeKind.web.isSlash c = false

/-- A plain character is not dropped. -/
theorem IsPlain.isIgnored_eq_false {c : Char} (h : IsPlain c) : isIgnored c = false := by
  rw [Bool.eq_false_iff]
  intro hignored
  simp only [isIgnored, Bool.or_eq_true, beq_iff_eq] at hignored
  rcases hignored with (rfl | rfl) | rfl
  all_goals exact absurd h.1 (by decide)

/-- It does not end the path. -/
theorem IsPlain.endsPath_eq_false {c : Char} (h : IsPlain c) : endsPath c = false := by
  rw [Bool.eq_false_iff]
  intro hends
  simp only [endsPath, Bool.or_eq_true, beq_iff_eq] at hends
  rcases hends with rfl | rfl
  all_goals exact absurd h.1 (by decide)

/-- It is no slash. -/
theorem IsPlain.ne_slash {c : Char} (h : IsPlain c) : c ≠ '/' := by
  rintro rfl
  exact absurd h.2 (by decide)

/-- Neither is it one that leans the other way. -/
theorem IsPlain.ne_backslash {c : Char} (h : IsPlain c) : c ≠ '\\' := by
  rintro rfl
  exact absurd h.2 (by decide)

/-- The digits of escaped bytes are plain. -/
theorem isPlain_hexDigit {n : Nat} (h : n < 16) : IsPlain (hexDigit n) := by
  have hall : ∀ n < 16, isEscapedInPath (hexDigit n) = false ∧
      SchemeKind.web.isSlash (hexDigit n) = false := by
    decide
  exact hall n h

/-- A character is plain when it has been escaped if it has to be. -/
theorem isPlain_of_mem_encodeChar {c d : Char} (hc : SchemeKind.web.isSlash c = false)
    (hd : d ∈ encodeChar isEscapedInPath c) : IsPlain d := by
  rw [encodeChar] at hd
  split at hd
  · rcases List.mem_flatMap.mp hd with ⟨b, -, hb⟩
    have hbyte := b.toNat_lt
    simp only [escapeByte, List.mem_cons, List.not_mem_nil, or_false] at hb
    rcases hb with rfl | rfl | rfl
    · exact ⟨by decide, by decide⟩
    · exact isPlain_hexDigit (by omega)
    · exact isPlain_hexDigit (by omega)
  · rename_i hplain
    cases List.mem_singleton.mp hd
    exact ⟨Bool.eq_false_iff.mpr hplain, hc⟩

/-- Without escapes a segment of dots is made of dots. -/
theorem eq_replicate_of_dots? {s : List Char} {n : Nat} (h : dots? s = some n)
    (hescape : '%' ∉ s) : s = List.replicate n '.' := by
  induction s using dots?.induct generalizing n with
  | case1 =>
      rw [dots?] at h
      cases h
      rfl
  | case2 rest ih =>
      rw [dots?, Option.map_eq_some_iff] at h
      rcases h with ⟨m, hm, rfl⟩
      rw [ih hm fun hmem => hescape (List.mem_cons_of_mem _ hmem), List.replicate_succ]
  | case3 e rest he ih => exact absurd List.mem_cons_self hescape
  | case4 e rest he => exact absurd List.mem_cons_self hescape
  | case5 s hnil hdot hescaped =>
      rw [dots?] at h
      · cases h
      all_goals assumption

/-- The segment stands in a path as it is. -/
structure IsSegment (s : List Char) : Prop where
  plain : ∀ c ∈ s, IsPlain c
  not_here : dots? s ≠ some 1
  not_up : dots? s ≠ some 2

/-- A segment can be empty. -/
theorem isSegment_nil : IsSegment [] :=
  ⟨List.forall_mem_nil _, by decide, by decide⟩

/-! ## Folders -/

/-- The segments of a folder, with their slashes. -/
def folderChars (segments : List (List Char)) : List Char :=
  segments.flatMap (· ++ ['/'])

/-- One more segment is put behind the others. -/
theorem folderChars_concat (segments : List (List Char)) (s : List Char) :
    folderChars (segments ++ [s]) = folderChars segments ++ s ++ ['/'] := by
  simp [folderChars]

/-- The path ends in a slash, and its segments stand in it as they are. -/
def IsFolder (path : List Char) : Prop :=
  ∃ segments, (∀ s ∈ segments, IsSegment s) ∧ path = '/' :: folderChars segments

/-- The path is a folder and a segment behind it. -/
def IsPath (path : List Char) : Prop :=
  ∃ folder s, IsFolder folder ∧ IsSegment s ∧ path = folder ++ s

/-- The root is a folder. -/
theorem isFolder_root : IsFolder ['/'] :=
  ⟨[], List.forall_mem_nil _, rfl⟩

namespace IsFolder

variable {path : List Char}

/-- A folder ends in a slash. -/
theorem exists_eq_append (h : IsFolder path) : ∃ front, path = front ++ ['/'] := by
  rcases h with ⟨segments, -, rfl⟩
  rcases List.eq_nil_or_concat segments with rfl | ⟨before, last, rfl⟩
  · exact ⟨[], rfl⟩
  · rw [List.concat_eq_append]
    exact ⟨'/' :: (folderChars before ++ last), by rw [folderChars_concat, List.cons_append]⟩

/-- A folder is a path. -/
theorem isPath (h : IsFolder path) : IsPath path :=
  ⟨path, [], h, isSegment_nil, (List.append_nil path).symm⟩

/-- A segment and its slash lead to another folder. -/
theorem append_segment (h : IsFolder path) {s : List Char} (hs : IsSegment s) :
    IsFolder (path ++ s ++ ['/']) := by
  rcases h with ⟨segments, hsegments, rfl⟩
  refine ⟨segments ++ [s], ?_, ?_⟩
  · rw [List.forall_mem_append, List.forall_mem_singleton]
    exact ⟨hsegments, hs⟩
  · rw [folderChars_concat, List.cons_append, List.cons_append]

/-- Up to its last slash a path is its folder. -/
theorem folder_append (h : IsFolder path) {s : List Char} (hs : ∀ c ∈ s, c ≠ '/') :
    folder (path ++ s) = path := by
  rcases h.exists_eq_append with ⟨front, rfl⟩
  have hall : ∀ c ∈ s.reverse, (c != '/') = true := fun c hc =>
    bne_iff_ne.mpr (hs c (List.mem_reverse.mp hc))
  rw [folder, List.reverse_append, List.dropWhile_append_of_pos hall, List.reverse_append]
  simp

/-- The folder above is a folder. -/
theorem parent (h : IsFolder path) : IsFolder (parent path) := by
  rw [Url.parent]
  split
  · exact h
  · rename_i hup
    rcases h with ⟨segments, hsegments, rfl⟩
    rcases List.eq_nil_or_concat segments with rfl | ⟨before, last, rfl⟩
    · exact absurd rfl hup
    · rw [List.concat_eq_append] at hsegments ⊢
      rw [List.forall_mem_append, List.forall_mem_singleton] at hsegments
      have hbefore : IsFolder ('/' :: folderChars before) := ⟨before, hsegments.1, rfl⟩
      have hlast : ('/' :: folderChars (before ++ [last])).dropLast =
          '/' :: folderChars before ++ last := by
        rw [folderChars_concat, ← List.cons_append, List.dropLast_concat, List.cons_append]
      rw [hlast, hbefore.folder_append fun c hc => (hsegments.2.plain c hc).ne_slash]
      exact hbefore

end IsFolder

/-- The path with a slash at its end. -/
def slashed (path : List Char) : List Char :=
  if path.getLast? = some '/' then path else path ++ ['/']

/-- A folder has its slash. -/
theorem slashed_of_isFolder {path : List Char} (h : IsFolder path) : slashed path = path := by
  rcases h.exists_eq_append with ⟨front, rfl⟩
  exact if_pos List.getLast?_concat

/-- A segment behind a folder lacks one, unless it is empty. -/
theorem slashed_append (path : List Char) {s : List Char} (hne : s ≠ [])
    (hs : ∀ c ∈ s, IsPlain c) : slashed (path ++ s) = path ++ s ++ ['/'] := by
  refine if_neg fun hlast => ?_
  rw [List.getLast?_append_of_ne_nil _ hne] at hlast
  exact (hs _ (List.mem_of_getLast? hlast)).ne_slash rfl

/-- With a slash at its end a path is a folder. -/
theorem IsPath.isFolder_slashed {path : List Char} (h : IsPath path) : IsFolder (slashed path) := by
  rcases h with ⟨folder, s, hfolder, hs, rfl⟩
  by_cases hne : s = []
  · rw [hne, List.append_nil, slashed_of_isFolder hfolder]
    exact hfolder
  · rw [slashed_append folder hne hs.plain]
    exact hfolder.append_segment hs

/-- A path that was read is not empty. -/
theorem IsPath.ne_nil {path : List Char} (h : IsPath path) : path ≠ [] := by
  rcases h with ⟨folder, s, hfolder, -, rfl⟩
  rcases hfolder.exists_eq_append with ⟨front, rfl⟩
  simp

/-! ## What is read -/

/-- A segment that is no dots is put behind the folder. -/
theorem appendSegment_of_isSegment {s : List Char} (h : IsSegment s) (path : PathSoFar)
    (slash : Bool) : appendSegment .web path s slash =
      { path with chars := path.chars ++ s ++ if slash then ['/'] else [] } := by
  rw [appendSegment]
  split
  · exact absurd ‹_› h.not_here
  · exact absurd ‹_› h.not_up
  · exact if_neg fun hfile => SchemeKind.noConfusion hfile.1

/-- A segment with its slash leads from folder to folder. -/
theorem isFolder_appendSegment {path : PathSoFar} {s : List Char} (hpath : IsFolder path.chars)
    (hs : ∀ c ∈ s, IsPlain c) : IsFolder (appendSegment .web path s true).chars := by
  by_cases hhere : dots? s = some 1
  · rw [appendSegment, hhere]
    exact hpath
  · by_cases hup : dots? s = some 2
    · rw [appendSegment, hup]
      exact hpath.parent
    · have hsegment : IsSegment s := ⟨hs, hhere, hup⟩
      rw [appendSegment_of_isSegment hsegment]
      exact hpath.append_segment hsegment

/-- The last segment ends the path. -/
theorem isPath_appendSegment {path : PathSoFar} {s : List Char} (hpath : IsFolder path.chars)
    (hs : ∀ c ∈ s, IsPlain c) : IsPath (appendSegment .web path s false).chars := by
  by_cases hhere : dots? s = some 1
  · rw [appendSegment, hhere]
    exact hpath.isPath
  · by_cases hup : dots? s = some 2
    · rw [appendSegment, hup]
      exact hpath.parent.isPath
    · have hsegment : IsSegment s := ⟨hs, hhere, hup⟩
      rw [appendSegment_of_isSegment hsegment]
      exact ⟨path.chars, s, hpath, hsegment, List.append_nil _⟩

variable {w : Bool}

/-- A character is dropped, ends a segment or the path, or is put behind the segment. Only
    the path of a file can be cut behind a drive letter. -/
theorem readSegments_cons (path : PathSoFar) (s : List Char) (c : Char) (rest : List Char) :
    readSegments .web w path s (c :: rest) =
      if isIgnored c then readSegments .web w path s rest
      else if SchemeKind.web.isSlash c then
        readSegments .web w (appendSegment .web path s true) [] rest
      else if !w && endsPath c then (appendSegment .web path s false, c :: rest)
      else readSegments .web w path (s ++ encodeChar isEscapedInPath c) rest := by
  have hcut : ¬ cutsDrive .web path s rest = true := Bool.false_ne_true
  rw [readSegments, if_neg hcut]

/-- Whatever is read from a folder on is a path. -/
theorem isPath_readSegments {path : PathSoFar} {s : List Char} (hpath : IsFolder path.chars)
    (hs : ∀ c ∈ s, IsPlain c) (cs : List Char) :
    IsPath (readSegments .web w path s cs).1.chars := by
  -- What has been read is a folder, and what has been read of the segment is plain.
  induction cs generalizing path s with
  | nil => exact isPath_appendSegment hpath hs
  | cons c rest ih =>
      rw [readSegments_cons]
      split
      · exact ih hpath hs
      · split
        · exact ih (isFolder_appendSegment hpath hs) (List.forall_mem_nil _)
        · rename_i hslash
          split
          · exact isPath_appendSegment hpath hs
          · refine ih hpath (List.forall_mem_append.mpr ⟨hs, fun d hd => ?_⟩)
            exact isPlain_of_mem_encodeChar (Bool.eq_false_iff.mpr hslash) hd

/-- The path behind an authority is a path. -/
theorem isPath_readPath (text : List Char) : IsPath (readPath .web w text).1.chars := by
  cases text with
  | nil => exact isFolder_root.isPath
  | cons c rest =>
      rw [readPath]
      split
      · exact isPath_readSegments isFolder_root (List.forall_mem_nil _) rest
      · rw [if_neg fun h => SchemeKind.noConfusion h.1]
        exact isPath_readSegments isFolder_root (List.forall_mem_nil _) (c :: rest)

/-! ## What is read as it is -/

/-- Plain characters are taken over. -/
theorem readSegments_append {s : List Char} (hs : ∀ c ∈ s, IsPlain c) (path : PathSoFar)
    (before cs : List Char) : readSegments .web w path before (s ++ cs) =
      readSegments .web w path (before ++ s) cs := by
  induction s generalizing before with
  | nil => rw [List.append_nil, List.nil_append]
  | cons c rest ih =>
      rw [List.forall_mem_cons] at hs
      have hc := hs.1
      rw [List.cons_append, readSegments_cons, hc.isIgnored_eq_false, hc.2, hc.endsPath_eq_false,
        Bool.and_false, encodeChar, hc.1]
      simp only [Bool.false_eq_true, if_false]
      rw [ih hs.2, List.append_assoc, List.singleton_append]

/-- A segment at the end is put behind the folder. -/
theorem readSegments_segment {s : List Char} (h : IsSegment s) (path : PathSoFar) :
    readSegments .web w path [] s = ({ path with chars := path.chars ++ s }, []) := by
  have hread := readSegments_append (w := w) h.plain path [] []
  rw [List.append_nil, List.nil_append] at hread
  rw [hread, readSegments, appendSegment_of_isSegment h]
  simp

/-- The segments of a folder are put behind the folder that was read before them. -/
theorem readSegments_folder {segments : List (List Char)} (h : ∀ s ∈ segments, IsSegment s)
    (path : PathSoFar) (cs : List Char) :
    readSegments .web w path [] (folderChars segments ++ cs) =
      readSegments .web w { path with chars := path.chars ++ folderChars segments } [] cs := by
  induction segments generalizing path with
  | nil => simp [folderChars]
  | cons s rest ih =>
      rw [List.forall_mem_cons] at h
      have hchars : folderChars (s :: rest) ++ cs = s ++ '/' :: (folderChars rest ++ cs) := by
        simp [folderChars]
      have hslash : SchemeKind.web.isSlash '/' = true := rfl
      rw [hchars, readSegments_append h.1.plain, readSegments_cons, if_neg (by decide),
        if_pos hslash, List.nil_append, appendSegment_of_isSegment h.1, ih h.2]
      simp [folderChars]

end Url

end LootFilter
