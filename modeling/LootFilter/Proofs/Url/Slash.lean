import LootFilter.Proofs.Url.Address

/-!
# A Slash Behind an Address

The text of an address of the web and the same text with a slash behind it are the same
URL, but for a slash at the end of its path. That holds if the text does not end in a slash
or in a blank. Behind a slash another one starts an empty segment, and a blank that would
have been dropped is kept once a slash follows it.

A slash at the end can fall to any part of a text, and the proof takes the parts in turn.
It does not reach the scheme, which ends at its colon. It ends an authority, but so does
the end of the text, and what comes in front of it is read in the same way
(`readAuthority_of_web`). In a path it ends the last segment, which was ended by the end of the
text before. Behind a question mark or a number sign it changes the query or the fragment and
nothing else.

## Main definitions

* `Url.EndsPlainly`: A text that does not end in a slash or in something that is dropped.
* `Url.readWebAuthority`: Reads an authority up to the character that ends it.
* `Url.SameFolder`: URLs that references are looked up in alike.

## Theorems

* `Url.slashed_readPath_append`: What the slash does to a path.
* `Url.readAuthority_append_slash`: It is left over behind an authority.
* `Url.exists_parse_append_slash`: What it does to a URL.
-/

namespace LootFilter

namespace Url

/-! ## Texts that end in something else -/

/-- The text does not end in a slash or in something that is dropped. -/
def EndsPlainly (cs : List Char) : Prop :=
  ∀ c ∈ cs.getLast?, isPadding c = false ∧ SchemeKind.web.isSlash c = false

namespace EndsPlainly

variable {cs ds : List Char}

/-- What is dropped within a text is also dropped at its ends. -/
theorem isIgnored_eq_false {c : Char} (h : isPadding c = false) : isIgnored c = false := by
  rw [Bool.eq_false_iff]
  intro hignored
  simp only [isIgnored, Bool.or_eq_true, beq_iff_eq] at hignored
  rcases hignored with (rfl | rfl) | rfl
  all_goals exact absurd h (by decide)

/-- The end of a text ends like the text. -/
theorem of_suffix (h : EndsPlainly cs) (hsuffix : ds <:+ cs) : EndsPlainly ds := by
  rcases hsuffix with ⟨front, rfl⟩
  intro c hc
  refine h c ?_
  rw [List.getLast?_append, hc]
  rfl

/-- Nothing is dropped at the end. -/
theorem filter (h : EndsPlainly cs) : EndsPlainly (readable cs) := by
  rcases List.eq_nil_or_concat cs with rfl | ⟨front, c, rfl⟩
  · exact h
  · rw [List.concat_eq_append] at h ⊢
    have hc := h c List.getLast?_concat
    have hkeep : readable (front ++ [c]) = readable front ++ [c] := by
      rw [readable, List.filter_append, List.filter_singleton, isIgnored_eq_false hc.1]
      rfl
    rw [hkeep]
    intro d hd
    rw [List.getLast?_concat] at hd
    cases hd
    exact hc

end EndsPlainly

/-- A character that stops a run stops it at the end of the text too. -/
theorem takeWhile_dropWhile_concat {p : Char → Bool} {c : Char} (hc : p c = false)
    (cs : List Char) : (cs ++ [c]).takeWhile p = cs.takeWhile p ∧
      (cs ++ [c]).dropWhile p = cs.dropWhile p ++ [c] := by
  induction cs with
  | nil => simp [hc]
  | cons d rest ih =>
      cases hd : p d with
      | true => simp [hd, ih.1, ih.2]
      | false => simp [hd]

/-! ## Paths -/

/-- An escaped character leaves something. -/
theorem encodeChar_ne_nil (c : Char) : encodeChar isEscapedInPath c ≠ [] := by
  rw [encodeChar]
  split
  · have hbytes : String.utf8EncodeChar c ≠ [] := by
      intro hnil
      have hlength := String.length_utf8EncodeChar c
      rw [hnil, List.length_nil] at hlength
      exact absurd hlength (Nat.ne_of_lt c.utf8Size_pos)
    rcases List.exists_cons_of_ne_nil hbytes with ⟨b, rest, hb⟩
    rw [escape, hb, List.flatMap_cons, escapeByte]
    exact List.cons_ne_nil _ _
  · exact List.cons_ne_nil c []

/-- A slash behind the last segment ends it. -/
theorem slashed_appendSegment {path : PathSoFar} {s : List Char} (hpath : IsFolder path.chars)
    (hs : ∀ c ∈ s, IsPlain c) (hne : s ≠ []) :
    slashed (appendSegment .web path s false).chars = (appendSegment .web path s true).chars := by
  by_cases hhere : dots? s = some 1
  · rw [appendSegment, appendSegment, hhere]
    exact slashed_of_isFolder hpath
  · by_cases hup : dots? s = some 2
    · rw [appendSegment, appendSegment, hup]
      exact slashed_of_isFolder hpath.parent
    · rw [appendSegment_of_isSegment ⟨hs, hhere, hup⟩, appendSegment_of_isSegment ⟨hs, hhere, hup⟩]
      simp only [Bool.false_eq_true, if_false, if_true, List.append_nil]
      exact slashed_append path.chars hne hs

/-- A slash behind a path changes no more than that. -/
theorem slashed_readSegments_append {path : PathSoFar} {s cs : List Char}
    (hpath : IsFolder path.chars) (hs : ∀ c ∈ s, IsPlain c) (hne : cs = [] → s ≠ [])
    (hend : EndsPlainly cs) : slashed (readSegments .web false path s (cs ++ ['/'])).1.chars =
      slashed (readSegments .web false path s cs).1.chars := by
  induction cs generalizing path s with
  | nil =>
      have hfolder := isFolder_appendSegment hpath hs
      have hslash : SchemeKind.web.isSlash '/' = true := rfl
      rw [List.nil_append, readSegments_cons, if_neg (by decide), if_pos hslash,
        readSegments_segment isSegment_nil, List.append_nil, slashed_of_isFolder hfolder,
        readSegments, slashed_appendSegment hpath hs (hne rfl)]
  | cons c rest ih =>
      have hrest : EndsPlainly rest := hend.of_suffix (List.suffix_cons c rest)
      -- The last character stays and is no slash.
      have hlast (h : isIgnored c = true ∨ SchemeKind.web.isSlash c = true) : rest ≠ [] := by
        rintro rfl
        have hc := hend c rfl
        rcases h with h | h
        · exact absurd h (Bool.eq_false_iff.mp (EndsPlainly.isIgnored_eq_false hc.1))
        · exact absurd h (Bool.eq_false_iff.mp hc.2)
      rw [List.cons_append, readSegments_cons, readSegments_cons]
      by_cases hignored : isIgnored c = true
      · rw [if_pos hignored, if_pos hignored]
        exact ih hpath hs (fun h => absurd h (hlast (Or.inl hignored))) hrest
      · rw [if_neg hignored, if_neg hignored]
        by_cases hslash : SchemeKind.web.isSlash c = true
        · rw [if_pos hslash, if_pos hslash]
          exact ih (isFolder_appendSegment hpath hs) (List.forall_mem_nil _)
            (fun h => absurd h (hlast (Or.inr hslash))) hrest
        · rw [if_neg hslash, if_neg hslash]
          by_cases hends : (!false && endsPath c) = true
          · rw [if_pos hends, if_pos hends]
          · rw [if_neg hends, if_neg hends]
            have hchar : ∀ d ∈ encodeChar isEscapedInPath c, IsPlain d := fun d hd =>
              isPlain_of_mem_encodeChar (Bool.eq_false_iff.mpr hslash) hd
            exact ih hpath (List.forall_mem_append.mpr ⟨hs, hchar⟩)
              (fun _ => List.append_ne_nil_of_right_ne_nil s (encodeChar_ne_nil c)) hrest

/-- The same for the path behind an authority. -/
theorem slashed_readPath_append {text : List Char} (hend : EndsPlainly text) :
    slashed (readPath .web false (text ++ ['/'])).1.chars =
      slashed (readPath .web false text).1.chars := by
  cases text with
  | nil => rfl
  | cons c rest =>
      rw [List.cons_append, readPath, readPath]
      by_cases hslash : SchemeKind.web.isSlash c = true
      · rw [if_pos hslash, if_pos hslash]
        have hrest : EndsPlainly rest := hend.of_suffix (List.suffix_cons c rest)
        refine slashed_readSegments_append isFolder_root (List.forall_mem_nil _) ?_ hrest
        rintro rfl
        exact absurd hslash (Bool.eq_false_iff.mp (hend c rfl).2)
      · rw [if_neg hslash, if_neg hslash, if_neg fun h => SchemeKind.noConfusion h.1,
          if_neg fun h => SchemeKind.noConfusion h.1]
        rw [← List.cons_append]
        exact slashed_readSegments_append isFolder_root (List.forall_mem_nil _)
          (fun h => absurd h (List.cons_ne_nil c rest)) hend

/-! ## Authorities -/

/-- Reads the text of an authority of the web, up to the character that ends it. -/
def readWebAuthority (scheme body : List Char) : Except UrlError (Authority × List Char) := do
  let (credentials?, body) := splitCredentials body
  let credentials := credentialChars (credentials?.getD [])
  let (hostText, afterHost) := splitHost false body
  if hostText.isEmpty then throw .emptyHost
  let host ← Host.parse hostText
  if host = .domain [] ∧ (!credentials.isEmpty ∨ [':'].isPrefixOf afterHost) then
    throw .emptyHost
  let (port, afterPort) ← readPort scheme afterHost
  return (⟨credentials, host, port⟩, afterPort)

/-- An authority of the web is read of the text up to a slash, a query or a fragment, and
    does not depend on whether one of these follows. -/
theorem readAuthority_of_web {scheme : List Char} (hweb : SchemeKind.ofScheme scheme = .web)
    (text : List Char) : readAuthority scheme text =
      (readWebAuthority scheme (text.takeWhile (!endsAuthority .web ·))).map fun p =>
        (p.1, p.2 ++ text.dropWhile (!endsAuthority .web ·)) := by
  unfold readAuthority readWebAuthority
  simp only [hweb, List.span_eq_takeWhile_dropWhile]
  rcases splitCredentials (text.takeWhile (!endsAuthority .web ·)) with ⟨credentials?, body⟩
  dsimp only
  by_cases hfirst : credentials? = some [] ∧ body.isEmpty = true ∧
      (!(text.dropWhile (!endsAuthority .web ·)).isEmpty) = true
  · -- Without a host there is no authority, whatever follows.
    rw [if_pos hfirst, List.isEmpty_iff.mp hfirst.2.1]
    rfl
  · rw [if_neg hfirst]
    rcases splitHost false body with ⟨hostText, afterHost⟩
    dsimp only
    by_cases hempty : hostText.isEmpty = true
    · rw [if_pos ⟨trivial, hempty⟩, if_pos hempty]
      rfl
    · rw [if_neg fun h => hempty h.2, if_neg hempty, if_pos trivial]
      cases Host.parse hostText with
      | error e => rfl
      | ok host =>
          by_cases hblank : host = .domain [] ∧
              ((!(credentialChars (credentials?.getD [])).isEmpty) = true ∨
                [':'].isPrefixOf afterHost = true)
          · change (if _ then _ else _) = Except.map _ (if _ then _ else _)
            rw [if_pos hblank, if_pos hblank]
            rfl
          · change (if _ then _ else _) = Except.map _ (if _ then _ else _)
            rw [if_neg hblank, if_neg hblank]
            cases readPort scheme afterHost with
            | error e => rfl
            | ok port => rfl

/-- What is behind the last at sign ends the text. -/
theorem suffix_splitCredentials (cs : List Char) : (splitCredentials cs).2 <:+ cs := by
  rw [splitCredentials, List.span_eq_takeWhile_dropWhile]
  split
  · rename_i host at' credentials hspan
    rw [← (Prod.mk.inj hspan).1]
    have hprefix := List.takeWhile_prefix (l := cs.reverse) (· != '@')
    rw [← List.reverse_suffix, List.reverse_reverse] at hprefix
    exact hprefix
  · exact List.suffix_refl cs

/-- So does what is behind the host. -/
theorem suffix_splitHost (cs : List Char) (bracketed : Bool) :
    (splitHost bracketed cs).2 <:+ cs := by
  induction cs generalizing bracketed with
  | nil => exact List.suffix_refl []
  | cons c rest ih =>
      rw [splitHost]
      split
      · exact List.suffix_refl (c :: rest)
      · exact (ih _).trans (List.suffix_cons c rest)

/-- So does what is behind the port. -/
theorem suffix_of_readPort {scheme cs rest : List Char} {port : Option Nat}
    (h : readPort scheme cs = .ok (port, rest)) : rest <:+ cs := by
  unfold readPort at h
  split at h
  · rename_i digits
    rw [List.span_eq_takeWhile_dropWhile] at h
    dsimp only at h
    split at h
    · cases h
    · split at h
      · cases h
      · split at h
        · cases h
          exact (List.dropWhile_suffix _).trans (List.suffix_cons ':' digits)
        · cases h
  · cases h
    exact List.suffix_refl cs

/-- So does all that is behind an authority. -/
theorem suffix_of_readWebAuthority {scheme body rest : List Char} {a : Authority}
    (h : readWebAuthority scheme body = .ok (a, rest)) : rest <:+ body := by
  unfold readWebAuthority at h
  have hbody := suffix_splitCredentials body
  rcases hsplit : splitCredentials body with ⟨credentials?, hostBody⟩
  have hafter := suffix_splitHost hostBody false
  rcases hhost : splitHost false hostBody with ⟨hostText, afterHost⟩
  rw [hsplit] at h hbody
  dsimp only at h
  rw [hhost] at h hafter
  dsimp only at h
  split at h
  · cases h
  · rcases (bind_eq_ok_iff _ _ _).mp h with ⟨host, -, h⟩
    split at h
    · cases h
    · rcases (bind_eq_ok_iff _ _ _).mp h with ⟨⟨port, afterPort⟩, hport, h⟩
      cases h
      exact (suffix_of_readPort hport).trans (hafter.trans hbody)

/-- A slash behind an address is left to its path. -/
theorem readAuthority_append_slash {scheme text rest : List Char} {a : Authority}
    (hweb : SchemeKind.ofScheme scheme = .web) (h : readAuthority scheme text = .ok (a, rest)) :
    readAuthority scheme (text ++ ['/']) = .ok (a, rest ++ ['/']) := by
  rcases takeWhile_dropWhile_concat (p := (!endsAuthority .web ·)) (c := '/') rfl text
    with ⟨htake, hdrop⟩
  rw [readAuthority_of_web hweb, map_eq_ok_iff] at h
  rcases h with ⟨⟨b, after⟩, hread, heq⟩
  cases heq
  rw [readAuthority_of_web hweb, htake, hdrop, hread]
  exact congrArg Except.ok (Prod.ext rfl (List.append_assoc _ _ _).symm)

/-- Behind an authority the text ends as it does as a whole. -/
theorem endsPlainly_of_readAuthority {scheme text rest : List Char} {a : Authority}
    (hweb : SchemeKind.ofScheme scheme = .web) (h : readAuthority scheme text = .ok (a, rest))
    (hend : EndsPlainly text) : EndsPlainly rest := by
  rw [readAuthority_of_web hweb, map_eq_ok_iff] at h
  rcases h with ⟨⟨b, after⟩, hread, heq⟩
  cases heq
  refine hend.of_suffix ?_
  rcases suffix_of_readWebAuthority hread with ⟨front, hfront⟩
  refine ⟨front, ?_⟩
  rw [← List.append_assoc, hfront, List.takeWhile_append_dropWhile]

/-- There is no authority in an empty text. -/
theorem readAuthority_nil_ne_ok {scheme : List Char} (hweb : SchemeKind.ofScheme scheme = .web)
    (p : Authority × List Char) : readAuthority scheme [] ≠ .ok p := by
  rw [readAuthority_of_web hweb]
  intro h
  cases h

/-! ## Whole texts -/

/-- The URLs differ at most in a slash at the end of their paths, and in what comes behind
    the paths. -/
structure SameFolder (u v : Url) : Prop where
  scheme : v.scheme = u.scheme
  authority : v.authority = u.authority
  path : slashed v.path = slashed u.path

variable {u : Url}

/-- Such URLs are of the same kind. -/
theorem SameFolder.kind_eq {v : Url} (h : u.SameFolder v) : v.kind = u.kind :=
  congrArg SchemeKind.ofScheme h.scheme

/-- A slash behind the address of a URL of the web puts one behind its path, if there is
    none yet. -/
theorem exists_ofAuthority_append_slash {scheme text : List Char}
    (hweb : SchemeKind.ofScheme scheme = .web) (h : ofAuthority scheme text = .ok u)
    (hend : EndsPlainly text) :
    ∃ v, ofAuthority scheme (text ++ ['/']) = .ok v ∧ u.SameFolder v := by
  rcases ofAuthority_eq_ok_iff.mp h with ⟨a, rest, hread, rfl⟩
  refine ⟨_, ofAuthority_eq_ok_iff.mpr ⟨a, _, readAuthority_append_slash hweb hread, rfl⟩, rfl,
    rfl, ?_⟩
  rw [hweb]
  exact slashed_readPath_append (endsPlainly_of_readAuthority hweb hread hend)

/-- The character can stand in a scheme, or it is dropped there. -/
def isSchemeChar (c : Char) : Bool :=
  c.isAlphanum || c == '+' || c == '-' || c == '.' || isIgnored c

/-- A scheme starts with a letter and is ended by a colon. -/
theorem splitScheme?_eq_some_iff {cs scheme text : List Char} :
    splitScheme? cs = some (scheme, text) ↔ ∃ c more,
      readable (cs.takeWhile isSchemeChar) = c :: more ∧ cs.dropWhile isSchemeChar = ':' :: text ∧
        c.isAlpha = true ∧ (c :: more).map Char.toLower = scheme := by
  unfold splitScheme? isSchemeChar
  rw [List.span_eq_takeWhile_dropWhile]
  dsimp only
  split
  · rename_i c more rest hscheme hcolon
    rw [hscheme, hcolon]
    constructor
    · intro h
      split at h
      · rename_i halpha
        cases h
        exact ⟨c, more, rfl, rfl, halpha, rfl⟩
      · cases h
    · rintro ⟨d, others, hscheme', hcolon', halpha, rfl⟩
      cases hscheme'
      cases hcolon'
      exact if_pos halpha
  · rename_i hnone
    refine iff_of_false (fun h => by cases h) ?_
    rintro ⟨c, more, hscheme, hcolon, -⟩
    exact hnone c more text hscheme hcolon

/-- A slash at the end of a text comes behind the part with the scheme. -/
theorem splitScheme?_append_slash {cs scheme text : List Char}
    (h : splitScheme? cs = some (scheme, text)) :
    splitScheme? (cs ++ ['/']) = some (scheme, text ++ ['/']) ∧ text <:+ cs := by
  rcases takeWhile_dropWhile_concat (p := isSchemeChar) (c := '/') (by decide) cs
    with ⟨htake, hdrop⟩
  rcases splitScheme?_eq_some_iff.mp h with ⟨c, more, hscheme, hcolon, halpha, hlower⟩
  refine ⟨splitScheme?_eq_some_iff.mpr ⟨c, more, ?_, ?_, halpha, hlower⟩, ?_⟩
  · rw [htake, hscheme]
  · rw [hdrop, hcolon, List.cons_append]
  · exact (List.suffix_cons ':' text).trans (hcolon ▸ List.dropWhile_suffix _)

/-- Only what is in front is dropped of a text that does not end in something that is. -/
theorem trimmed_of_endsPlainly {s : String} (h : EndsPlainly s.toList) :
    trimmed s = s.toList.dropWhile isPadding := by
  have hend := h.of_suffix (List.dropWhile_suffix isPadding)
  rw [trimmed]
  rcases List.eq_nil_or_concat (s.toList.dropWhile isPadding) with hnil | ⟨front, c, hconcat⟩
  · rw [hnil]
    rfl
  · rw [hconcat, List.concat_eq_append] at hend ⊢
    have hc := (hend c List.getLast?_concat).1
    rw [List.reverse_concat, List.dropWhile_cons_of_neg (Bool.eq_false_iff.mp hc),
      List.reverse_cons, List.reverse_reverse]

/-- A slash at the end is not dropped. -/
theorem trimmed_append_slash (s : String) :
    trimmed (s ++ "/") = s.toList.dropWhile isPadding ++ ['/'] := by
  have hslash : ¬ isPadding '/' = true := by decide
  have hdrop := (takeWhile_dropWhile_concat (p := isPadding) (c := '/') (by decide) s.toList).2
  rw [trimmed, String.toList_append, show "/".toList = ['/'] from rfl, hdrop, List.reverse_concat,
    List.dropWhile_cons_of_neg hslash, List.reverse_cons, List.reverse_reverse]

/-- The slashes behind a scheme are not joined by one at the end of a text, unless there
    is nothing between them. -/
theorem dropWhile_readable_append_slash {text : List Char}
    (hne : (readable text).dropWhile isAnySlash ≠ []) :
    (readable (text ++ ['/'])).dropWhile isAnySlash =
      (readable text).dropWhile isAnySlash ++ ['/'] := by
  have hreadable : readable (text ++ ['/']) = readable text ++ ['/'] :=
    List.filter_append text ['/']
  rw [hreadable, List.dropWhile_append, if_neg]
  rwa [List.isEmpty_iff]

/-- The text of an address of the web, with a slash behind it, is the same address with a
    slash behind its path, if that had none. -/
theorem exists_parse_append_slash {s : String} (h : parse s = .ok u) (hweb : u.kind = .web)
    (hend : EndsPlainly s.toList) : ∃ v, parse (s ++ "/") = .ok v ∧ u.SameFolder v := by
  rw [parse, trimmed_of_endsPlainly hend] at h
  rw [parse, trimmed_append_slash]
  split at h
  · rename_i scheme text hscheme
    -- The slash comes behind the scheme, so all that matters is how the text behind it ends.
    rcases splitScheme?_append_slash hscheme with ⟨happend, hsuffix⟩
    rcases (ofScheme_eq_ok_iff hweb).mp h with ⟨hkind, hauthority⟩
    have htext : EndsPlainly ((readable text).dropWhile isAnySlash) :=
      ((hend.of_suffix (List.dropWhile_suffix _)).of_suffix hsuffix).filter.of_suffix
        (List.dropWhile_suffix _)
    rcases exists_ofAuthority_append_slash hkind hauthority htext with ⟨v, hv, hsame⟩
    refine ⟨v, ?_, hsame⟩
    have hvweb : v.kind = .web := hsame.kind_eq.trans hweb
    rw [happend]
    refine (ofScheme_eq_ok_iff hvweb).mpr ⟨hkind, ?_⟩
    rwa [dropWhile_readable_append_slash]
    -- Slashes alone would have left no text for an authority.
    intro hnil
    rw [hnil] at hauthority
    rcases ofAuthority_eq_ok_iff.mp hauthority with ⟨a, rest, hread, -⟩
    exact readAuthority_nil_ne_ok hkind _ hread
  · cases h

end Url

end LootFilter
