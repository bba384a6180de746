import LootFilter.Proofs.Source.Failure
import LootFilter.Proofs.Url.Path
import LootFilter.Url.Parser
import Mathlib.Data.List.TakeDrop

/-!
# Addresses of the Web

A URL of the web that was parsed has an authority and a path, and the path is in the form
in which it is read again as it is. With a slash at its end it is a folder, and a URL whose
path is a folder is what references are read relative to: a text that starts with a
segment in that form, holds no colon and goes on in segments of that form is put
behind the folder, whatever scheme, authority and folder there are. Query and fragment are
not handed on.

The colon matters. What stands in front of one would be taken for a scheme, and the
reference would not be relative to anything. An empty segment at the start would be a
reference to the root of the host.

Most of what parsing can do concerns other schemes. It is enough to know that none of them
gives a URL of the web, so a URL of the web comes out of one branch only.

## Main definitions

* `Url.IsBelow`: A reference that continues a folder.

## Theorems

* `Url.ofScheme_eq_ok_iff`: Where the URLs of the web come from.
* `Url.isPath_of_parse`: What their paths look like.
* `Url.setPath_of_isFolder`: A folder is set as a path as it stands.
* `Url.join_of_isBelow`: What a reference does to a folder.
-/

namespace LootFilter

namespace Url

variable {u : Url}

/-! ## What is parsed -/

/-- A host that starts a text gives a file URL. -/
theorem scheme_of_fileOfHost {text : List Char} (h : fileOfHost text = .ok u) :
    u.scheme = fileScheme := by
  unfold fileOfHost at h
  split at h
  rename_i hostText afterHost hspan
  have hfile {p : Prop} [Decidable p] {host host' : Host} {path path' rest rest' : List Char}
      (h : (if p then pure (file host path rest) else pure (file host' path' rest') :
        Except UrlError Url) = .ok u) : u.scheme = fileScheme := by
    split at h
    · cases h
      rfl
    · cases h
      rfl
  dsimp only at h
  split at h
  · cases h
    rfl
  · split at h
    · rcases (bind_eq_ok_iff _ _ _).mp h with ⟨host, -, hrest⟩
      exact hfile hrest
    · rcases (bind_eq_ok_iff _ _ _).mp h with ⟨host, -, hrest⟩
      exact hfile hrest

/-- So does any other text behind the scheme of files. -/
theorem scheme_of_ofFileText {text : List Char} (h : ofFileText none text = .ok u) :
    u.scheme = fileScheme := by
  unfold ofFileText at h
  dsimp only at h
  split at h
  · split at h
    · split at h
      · split at h
        · exact scheme_of_fileOfHost h
        · cases h
          rfl
      · cases h
        rfl
    · cases h
      rfl
  · cases h
    rfl

/-- An authority that starts a text is followed by a path. -/
theorem ofAuthority_eq_ok_iff {scheme text : List Char} :
    ofAuthority scheme text = .ok u ↔ ∃ authority rest,
      readAuthority scheme text = .ok (authority, rest) ∧
        u = withTail scheme (some authority) (readPath (.ofScheme scheme) false rest).1.chars
          (readPath (.ofScheme scheme) false rest).2 := by
  rw [ofAuthority, bind_eq_ok_iff]
  constructor
  · rintro ⟨⟨authority, rest⟩, hread, hpure⟩
    exact ⟨authority, rest, hread, (Except.ok.inj hpure).symm⟩
  · rintro ⟨authority, rest, hread, rfl⟩
    exact ⟨(authority, rest), hread, rfl⟩

/-- Such a URL has the scheme that stands in front of the authority. -/
theorem scheme_of_ofAuthority {scheme text : List Char} (h : ofAuthority scheme text = .ok u) :
    u.scheme = scheme := by
  rcases ofAuthority_eq_ok_iff.mp h with ⟨authority, rest, -, rfl⟩
  rfl

/-- The slashes behind a scheme of the web, of either kind. -/
def isAnySlash (c : Char) : Bool :=
  c == '/' || c == '\\'

/-- A URL of a scheme of the web comes from a text with this scheme and an authority behind
    it. -/
theorem ofScheme_eq_ok_iff {scheme text : List Char} (hweb : u.kind = .web) :
    ofScheme none scheme text = .ok u ↔ SchemeKind.ofScheme scheme = .web ∧
      ofAuthority scheme ((readable text).dropWhile isAnySlash) = .ok u := by
  have hother (hscheme : u.scheme = scheme) : SchemeKind.ofScheme scheme = .web :=
    hscheme ▸ hweb
  unfold ofScheme
  cases hkind : SchemeKind.ofScheme scheme with
  | file =>
      -- Whatever such a text is, it has the scheme of files.
      refine iff_of_false (fun h => ?_) fun h => SchemeKind.noConfusion h.1
      rw [kind, scheme_of_ofFileText h] at hweb
      exact absurd hweb (by decide)
  | web =>
      rw [Option.filter_none, List.span_eq_takeWhile_dropWhile]
      exact (and_iff_right rfl).symm
  | other =>
      -- The scheme stays, and it is not one of the web.
      refine iff_of_false (fun h => ?_) fun h => SchemeKind.noConfusion h.1
      have hscheme : u.scheme = scheme := by
        dsimp only at h
        split at h
        · exact scheme_of_ofAuthority h
        · cases h
          rfl
        · cases h
          rfl
      exact SchemeKind.noConfusion (hkind.symm.trans (hother hscheme))

/-- A URL of a scheme of the web has an authority, and its path was read as one. -/
theorem isPath_of_parse {s : String} (h : parse s = .ok u) (hweb : u.kind = .web) :
    u.authority.isSome = true ∧ IsPath u.path := by
  rw [parse] at h
  split at h
  · rename_i scheme text hscheme
    rcases (ofScheme_eq_ok_iff hweb).mp h with ⟨hkind, hauthority⟩
    rcases ofAuthority_eq_ok_iff.mp hauthority with ⟨authority, rest, -, rfl⟩
    refine ⟨rfl, ?_⟩
    rw [hkind]
    exact isPath_readPath rest
  · cases h

/-! ## Another path -/

/-- A folder is read as it is. -/
theorem readPath_of_isFolder {path : List Char} (h : IsFolder path) (whole : Bool) :
    readPath .web whole path = (⟨path, false⟩, []) := by
  rcases h with ⟨segments, hsegments, rfl⟩
  have hread := readSegments_folder (w := whole) hsegments ⟨['/'], false⟩ []
  rw [List.append_nil, readSegments_segment isSegment_nil, List.append_nil] at hread
  exact hread

/-- So a URL gets the folder that it is given for a path. -/
theorem setPath_of_isFolder (hweb : u.kind = .web) {path : List Char} (h : IsFolder path) :
    u.setPath path = { u with path := path } := by
  rw [setPath, hweb, readPath_of_isFolder h]
  rfl

/-! ## References -/

/-- A character that stands in a path as it is is not dropped at the ends of a text. -/
theorem IsPlain.isPadding_eq_false {c : Char} (h : IsPlain c) : isPadding c = false := by
  rw [Bool.eq_false_iff]
  intro hpadding
  have hlow : c.toNat ≤ 32 := of_decide_eq_true hpadding
  have hplain := h.1
  simp only [isEscapedInPath, isEscapedInFragment, isControlOrWide, Bool.or_eq_false_iff,
    decide_eq_false_iff_not] at hplain
  have hspace : c = ' ' := by
    rw [← Char.ofNat_toNat c, show c.toNat = 32 by omega]
  subst hspace
  exact absurd hplain.1.2 (by decide)

/-- The text is a reference to a path below a folder: segments that stand in a path as they
    are, of which the first one is not empty, without a colon. -/
structure IsBelow (text : List Char) : Prop where
  segments : ∃ first more last, IsSegment first ∧ first ≠ [] ∧ (∀ s ∈ more, IsSegment s) ∧
    IsSegment last ∧ text = folderChars (first :: more) ++ last
  colon : ':' ∉ text

namespace IsBelow

variable {text : List Char}

/-- The characters of such a text are slashes and characters that stand in a path as they
    are. -/
theorem eq_slash_or_isPlain (h : IsBelow text) : ∀ c ∈ text, c = '/' ∨ IsPlain c := by
  rcases h.segments with ⟨first, more, last, hfirst, -, hmore, hlast, rfl⟩
  have hall : ∀ s ∈ first :: more, IsSegment s := List.forall_mem_cons.mpr ⟨hfirst, hmore⟩
  intro c hc
  rcases List.mem_append.mp hc with hc | hc
  · rcases List.mem_flatMap.mp hc with ⟨s, hs, hc⟩
    rcases List.mem_append.mp hc with hc | hc
    · exact Or.inr ((hall s hs).plain c hc)
    · exact Or.inl (List.mem_singleton.mp hc)
  · exact Or.inr (hlast.plain c hc)

/-- The first one is no slash. -/
theorem exists_eq_cons (h : IsBelow text) : ∃ c more, text = c :: more ∧ IsPlain c := by
  rcases h.segments with ⟨first, more, last, hfirst, hne, -, -, rfl⟩
  rcases List.exists_cons_of_ne_nil hne with ⟨c, rest, rfl⟩
  exact ⟨c, _, rfl, hfirst.plain c List.mem_cons_self⟩

/-- None of them is dropped within a text. -/
theorem readable_eq (h : IsBelow text) : readable text = text := by
  refine List.filter_eq_self.mpr fun c hc => ?_
  rcases h.eq_slash_or_isPlain c hc with rfl | hplain
  · rfl
  · rw [hplain.isIgnored_eq_false]
    rfl

/-- None of them is dropped at its ends. -/
theorem trimmed_eq {s : String} (h : IsBelow s.toList) : trimmed s = s.toList := by
  have hpadding : ∀ c ∈ s.toList, ¬ isPadding c = true := by
    intro c hc
    rcases h.eq_slash_or_isPlain c hc with rfl | hplain
    · decide
    · exact Bool.eq_false_iff.mp hplain.isPadding_eq_false
  have hself (cs : List Char) (hcs : ∀ c ∈ cs, ¬ isPadding c = true) :
      cs.dropWhile isPadding = cs := by
    cases cs with
    | nil => rfl
    | cons c rest => exact List.dropWhile_cons_of_neg (hcs c List.mem_cons_self)
  rw [trimmed, hself _ hpadding, hself _ fun c hc => hpadding c (List.mem_reverse.mp hc),
    List.reverse_reverse]

/-- Without a colon there is no scheme. -/
theorem splitScheme?_eq_none (h : IsBelow text) : splitScheme? text = none := by
  rw [splitScheme?, List.span_eq_takeWhile_dropWhile]
  dsimp only
  split
  · rename_i hcolon
    exact absurd ((List.dropWhile_sublist _).subset (hcolon ▸ List.mem_cons_self)) h.colon
  · rfl

end IsBelow

/-- The references of a folder are looked up in the folder itself. -/
theorem referencePath_of_isFolder (hfolder : IsFolder u.path) : u.referencePath = u.path := by
  have hself : folder u.path = u.path := by
    have happend := hfolder.folder_append (s := []) (List.forall_mem_nil _)
    rwa [List.append_nil] at happend
  rcases hfolder.exists_eq_append with ⟨front, hfront⟩
  rw [referencePath, hself, hfront]
  simp

/-- A reference to a path below a folder continues the folder. -/
theorem join_of_isBelow (hweb : u.kind = .web) (hauthority : u.authority.isSome = true)
    (hfolder : IsFolder u.path) {s : String} (h : IsBelow s.toList) :
    u.join s = .ok { u with path := u.path ++ s.toList, query := none, fragment := none } := by
  have hreference : ofReference u s.toList =
      .ok { u with path := u.path ++ s.toList, query := none, fragment := none } := by
    rcases h.segments with ⟨first, more, last, hfirst, hne, hmore, hlast, htext⟩
    have hcontinue : continuePath u.kind u.referencePath s.toList =
        (⟨u.path ++ s.toList, false⟩, []) := by
      rw [hweb, referencePath_of_isFolder hfolder, continuePath, htext,
        readSegments_folder (List.forall_mem_cons.mpr ⟨hfirst, hmore⟩), readSegments_segment hlast,
        List.append_assoc]
    -- The first character is plain, so it is none of those that start a reference of
    -- another sort.
    rcases h.exists_eq_cons with ⟨c, rest, hs, hc⟩
    rw [hs] at hcontinue ⊢
    unfold ofReference
    split
    · cases ‹c :: rest = []›
    · cases ‹c :: rest = _›
      exact absurd hc.1 (by decide)
    · cases ‹c :: rest = _›
      exact absurd hc.1 (by decide)
    · cases ‹c :: rest = _›
      rw [hcontinue]
      rw [if_neg (not_or.mpr ⟨hc.ne_slash, hc.ne_backslash⟩)]
      rfl
  have hnumber : ¬ ['#'].isPrefixOf s.toList = true := by
    rcases h.exists_eq_cons with ⟨c, rest, hs, hc⟩
    intro hstart
    rw [hs, List.isPrefixOf_cons_cons, Bool.and_eq_true, beq_iff_eq] at hstart
    exact absurd hc.1 (hstart.1 ▸ by decide)
  have hhierarchical : u.isHierarchical = true := by
    rw [isHierarchical, hauthority, Bool.true_or]
  have hfile : u.kind ≠ .file := fun hkind => SchemeKind.noConfusion (hweb.symm.trans hkind)
  rw [join, h.trimmed_eq, h.splitScheme?_eq_none]
  dsimp only
  rw [h.readable_eq, if_neg hnumber, hhierarchical, if_neg hfile]
  exact hreference

end Url

end LootFilter
