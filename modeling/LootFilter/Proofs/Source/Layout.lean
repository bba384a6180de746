import LootFilter.Proofs.Disk.Below
import LootFilter.Proofs.Url.Slash
import LootFilter.Source.Place

/-!
# The Layout of Tables

A folder joins paths and a server joins references, and both have rules of their own for what
is joined. An absolute path stands for itself, a reference with a colon may have a
scheme, dots are followed, and the last segment of an address is dropped unless a slash ends
it. None of these rules applies to tables. Their paths are made of the tag of the version, the
name of one folder and the name of a file, and names like these are only put behind the root:
they have no slash, no colon and nothing that is escaped, and they are not just dots
(`IsPlainName`). The server has seen to it that its address ends in a slash.

So the place of a table is the root with a slash behind it and then the path of the table, in
both cases. That tells the tables apart, because the three names can be read off the path
again. It also tells that the slash need not be written, because the place does not depend on
whether it was there.

The empty tag is not a name. It has no folder of its own, and the path of its tables starts
with a slash.

## Main definitions

* `IsPlainName`: A text that names a folder or a file on a disk and on a server.
* `Url.below`: A URL with a path put behind its own.
* `Url.bare`: A URL without query and fragment.

## Theorems

* `names_tablePath`, `isBelow_tablePath`: The path of a table on a disk and on a server.
* `TableFolder.tablePath_eq_rooted_append`, `TableServer.exists_tableUrl`: The places of tables.
* `tables_share_layout`: Folders and servers have the same layout.
* `not_forall_table_follows_address`: The empty tag does not fit in.
-/

namespace LootFilter

/-! ## Names in both sorts of path -/

/-- The tags of patches are made of letters, digits, dots, hyphens and low lines. -/
def isTagChar (c : Char) : Bool :=
  c.isAlphanum || c == '.' || c == '-' || c == '_'

/-- All of these are ASCII. -/
theorem toNat_lt_of_isTagChar {c : Char} (h : isTagChar c = true) : c.toNat < 128 := by
  -- Each sort of letter or digit has a last one, and that is ASCII.
  have hbound (d : Char) (hd : d.toNat < 128) (hle : c.val ≤ d.val) : c.toNat < 128 :=
    Nat.lt_of_le_of_lt hle hd
  simp only [isTagChar, Bool.or_eq_true, beq_iff_eq] at h
  rcases h with ((h | rfl) | rfl) | rfl
  · rcases (Bool.or_eq_true _ _).mp h with hletter | hdigit
    · rcases (Bool.or_eq_true _ _).mp hletter with hupper | hlower
      · exact hbound 'Z' (by decide) (of_decide_eq_true hupper).2
      · exact hbound 'z' (by decide) (of_decide_eq_true ((Bool.and_eq_true _ _).mp hlower).2)
    · exact hbound '9' (by decide) (of_decide_eq_true ((Bool.and_eq_true _ _).mp hdigit).2)
  all_goals decide

/-- They stand in the path of a URL as they are, and none of them starts an escape or ends a
    scheme. -/
theorem isPlain_of_isTagChar {c : Char} (h : isTagChar c = true) :
    Url.IsPlain c ∧ c ≠ ':' ∧ c ≠ '%' := by
  have hall : ∀ n < 128, isTagChar (Char.ofNat n) = true →
      (Url.isEscapedInPath (Char.ofNat n) = false ∧
        SchemeKind.web.isSlash (Char.ofNat n) = false) ∧
          Char.ofNat n ≠ ':' ∧ Char.ofNat n ≠ '%' := by
    decide
  have hc := hall c.toNat (toNat_lt_of_isTagChar h)
  rw [Char.ofNat_toNat] at hc
  exact hc h

/-- The text can name a folder or a file. In a path of either sort it stands as it is, and it
    leads down. -/
structure IsPlainName (name : String) : Prop where
  chars : ∀ c ∈ name.toList, isTagChar c = true
  nonempty : name ≠ ""
  not_here : name ≠ "."
  not_up : name ≠ ".."

namespace IsPlainName

variable {name : String}

/-- There is no slash in such a name. -/
theorem notMem_slash (h : IsPlainName name) : '/' ∉ name.toList :=
  fun hmem => (isPlain_of_isTagChar (h.chars _ hmem)).1.ne_slash rfl

/-- Neither is there a colon. -/
theorem notMem_colon (h : IsPlainName name) : ':' ∉ name.toList :=
  fun hmem => (isPlain_of_isTagChar (h.chars _ hmem)).2.1 rfl

/-- It is a segment of the path of a URL. -/
theorem isSegment (h : IsPlainName name) : Url.IsSegment name.toList := by
  have hescape : '%' ∉ name.toList := fun hmem => (isPlain_of_isTagChar (h.chars _ hmem)).2.2 rfl
  refine ⟨fun c hc => (isPlain_of_isTagChar (h.chars c hc)).1, fun hdots => ?_, fun hdots => ?_⟩
  · exact h.not_here (String.toList_inj.mp (Url.eq_replicate_of_dots? hdots hescape))
  · exact h.not_up (String.toList_inj.mp (Url.eq_replicate_of_dots? hdots hescape))

/-- As a path of files it does not start at the root. -/
theorem isAbsolute_append (h : IsPlainName name) (more : String) :
    Path.isAbsolute (name ++ more) = false := by
  have hne : name.toList ≠ [] := mt String.toList_eq_nil_iff.mp h.nonempty
  rcases List.exists_cons_of_ne_nil hne with ⟨c, rest, hname⟩
  have hc : '/' ≠ c := by
    rintro rfl
    exact h.notMem_slash (hname ▸ List.mem_cons_self)
  rw [Path.isAbsolute, String.toList_append, hname, List.cons_append, List.isPrefixOf_cons_cons,
    beq_false_of_ne hc]
  rfl

/-- It is the only name in that path. -/
theorem names_eq (h : IsPlainName name) : Path.names name = [name] :=
  Path.names_of_notMem_slash h.nonempty h.notMem_slash

end IsPlainName

/-- The folder of a version has tables in a folder of this name. -/
theorem isPlainName_tables : IsPlainName "tables" :=
  ⟨List.all_eq_true.mp (by decide), by decide, by decide, by decide⟩

/-- The files of tables are named like that too. -/
theorem TableName.isPlainName_file (t : TableName) : IsPlainName (t.name ++ ".json") := by
  cases t
  all_goals exact ⟨List.all_eq_true.mp (by decide), by decide, by decide, by decide⟩

/-! ## Paths of tables -/

variable {v w : GameVersion}

/-- The path of a table is made of three names. -/
theorem tablePath_eq (v : GameVersion) (t : TableName) :
    tablePath v t = v.tag ++ "/" ++ ("tables" ++ "/" ++ (t.name ++ ".json")) := by
  have htables : "/tables/" = "/" ++ ("tables" ++ "/") := by decide
  rw [tablePath, htables]
  simp only [String.append_assoc]

/-- They are the names that are followed on a disk. -/
theorem names_tablePath (hv : IsPlainName v.tag) (t : TableName) :
    Path.names (tablePath v t) = [v.tag, "tables", t.name ++ ".json"] := by
  rw [tablePath_eq, Path.names_append_slash, Path.names_append_slash, hv.names_eq,
    isPlainName_tables.names_eq, t.isPlainName_file.names_eq]
  rfl

/-- They tell the version and the table. -/
theorem names_tablePath_ne (hv : IsPlainName v.tag) (hw : IsPlainName w.tag) {t r : TableName}
    (hne : (v, t) ≠ (w, r)) : Path.names (tablePath v t) ≠ Path.names (tablePath w r) := by
  intro h
  rw [names_tablePath hv, names_tablePath hw, List.cons.injEq, List.cons.injEq,
    List.cons.injEq] at h
  have hversion : v = w := congrArg GameVersion.mk h.1
  have htable : t = r := Vocabulary.token_injective ((String.append_left_inj ".json").mp h.2.2.1)
  exact hne (Prod.ext hversion htable)

/-- So does the path. -/
theorem tablePath_ne (hv : IsPlainName v.tag) (hw : IsPlainName w.tag) {t r : TableName}
    (hne : (v, t) ≠ (w, r)) : tablePath v t ≠ tablePath w r :=
  mt (congrArg Path.names) (names_tablePath_ne hv hw hne)

/-- The names lead down. -/
theorem leadsDown_tablePath (hv : IsPlainName v.tag) (t : TableName) :
    Path.LeadsDown (tablePath v t) := by
  refine ⟨?_, ?_, ?_⟩
  · rw [tablePath_eq, String.append_assoc]
    exact hv.isAbsolute_append _
  · rw [names_tablePath hv]
    exact List.cons_ne_nil _ _
  · rw [names_tablePath hv, List.forall_mem_cons, List.forall_mem_cons, List.forall_mem_singleton]
    exact ⟨⟨hv.not_here, hv.not_up⟩, ⟨isPlainName_tables.not_here, isPlainName_tables.not_up⟩,
      ⟨t.isPlainName_file.not_here, t.isPlainName_file.not_up⟩⟩

/-- As a reference the path continues that of a URL. -/
theorem isBelow_tablePath (hv : IsPlainName v.tag) (t : TableName) :
    Url.IsBelow (tablePath v t).toList := by
  have hchars : (tablePath v t).toList =
      Url.folderChars [v.tag.toList, "tables".toList] ++ (t.name ++ ".json").toList := by
    rw [tablePath_eq]
    simp [Url.folderChars, String.toList_append]
  rw [hchars]
  refine ⟨⟨_, [_], _, hv.isSegment, mt String.toList_eq_nil_iff.mp hv.nonempty, ?_,
    t.isPlainName_file.isSegment, rfl⟩, ?_⟩
  · rw [List.forall_mem_singleton]
    exact isPlainName_tables.isSegment
  · rw [List.mem_append, not_or]
    exact ⟨by simp [Url.folderChars, hv.notMem_colon], t.isPlainName_file.notMem_colon⟩

namespace TableFolder

/-- A folder is continued by the path of a table. -/
theorem tablePath_eq_rooted_append (f : TableFolder) (hv : IsPlainName v.tag) (t : TableName) :
    f.tablePath t v = Path.rooted f.root ++ LootFilter.tablePath v t := by
  have hname {name : String} (h : IsPlainName name) : Path.isAbsolute name = false := by
    have habsolute := h.isAbsolute_append ""
    rwa [String.append_empty] at habsolute
  rw [tablePath, Path.join_eq_rooted_append _ (hname hv),
    Path.join_eq_rooted_append _ (hname isPlainName_tables),
    Path.join_eq_rooted_append _ (hname t.isPlainName_file),
    Path.rooted_append _ hv.nonempty hv.notMem_slash,
    Path.rooted_append _ isPlainName_tables.nonempty isPlainName_tables.notMem_slash, tablePath_eq]
  simp only [String.append_assoc]

/-- Different tables in a folder have different paths, which lead to different places. -/
theorem tablePath_ne (f : TableFolder) (hv : IsPlainName v.tag) (hw : IsPlainName w.tag)
    {t r : TableName} (hne : (v, t) ≠ (w, r)) :
    f.tablePath t v ≠ f.tablePath r w ∧ ∀ (d : Disk) l k, d.locate (f.tablePath t v) = .ok l →
      d.locate (f.tablePath r w) = .ok k → l.names ≠ k.names := by
  rw [tablePath_eq_rooted_append f hv, tablePath_eq_rooted_append f hw]
  refine ⟨fun heq => ?_, fun d l k hl hk => ?_⟩
  · exact LootFilter.tablePath_ne hv hw hne ((String.append_right_inj _).mp heq)
  · exact Disk.names_ne_of_locate (leadsDown_tablePath hv t) (leadsDown_tablePath hw r)
      (names_tablePath_ne hv hw hne) hl hk

end TableFolder

/-! ## Addresses of tables -/

namespace Url

/-- The URL without its query and its fragment. -/
def bare (u : Url) : Url :=
  { u with query := none, fragment := none }

/-- The URL with a path put behind its own, without query and fragment. -/
def below (u : Url) (path : String) : Url :=
  { u with path := slashed u.path ++ path.toList, query := none, fragment := none }

/-- What is put behind a path does not tell whether there was a slash. -/
theorem SameFolder.below_eq {u u' : Url} (h : u.SameFolder u') (path : String) :
    u'.below path = u.below path := by
  rw [below, below, h.scheme, h.authority, h.path]

/-- The text of a URL with an authority ends in its path, if there is nothing behind it. -/
theorem toText_below {u : Url} (hauthority : u.authority.isSome = true) (hpath : IsPath u.path)
    (path : String) : (u.below path).toText = Path.rooted u.bare.toText ++ path := by
  rcases Option.isSome_iff_exists.mp hauthority with ⟨a, ha⟩
  have hbare : u.bare.toChars = u.scheme ++ [':'] ++ (['/', '/'] ++ a.toChars) ++ u.path := by
    simp [toChars, bare, part, ha]
  have hbelow : (u.below path).toChars =
      u.scheme ++ [':'] ++ (['/', '/'] ++ a.toChars) ++ (slashed u.path ++ path.toList) := by
    simp [toChars, below, part, ha]
  -- The text ends in a slash if the path does, because there is nothing behind the path.
  have hlast : u.bare.toText.toList.getLast? = u.path.getLast? := by
    rw [toText, String.toList_ofList, hbare, List.getLast?_append_of_ne_nil _ hpath.ne_nil]
  have hne : u.bare.toText ≠ "" := by
    intro hempty
    rw [hempty] at hlast
    exact hpath.ne_nil (List.getLast?_eq_none_iff.mp hlast.symm)
  rw [← String.toList_inj, toText, String.toList_ofList, hbelow, String.toList_append, Path.rooted,
    hlast, slashed]
  by_cases hslash : u.path.getLast? = some '/'
  · rw [if_pos hslash, if_pos (Or.inr hslash), toText, String.toList_ofList, hbare]
    simp
  · rw [if_neg hslash, if_neg (not_or.mpr ⟨hne, hslash⟩), String.toList_append, toText,
      String.toList_ofList, hbare]
    simp

end Url

namespace TableServer

variable {base : String} {u : Url}

/-- An address of the web is that of a server, with a slash at its end. -/
theorem ofAddress_of_parse (h : Url.parse base = .ok u) (hweb : u.kind = .web) :
    ofAddress base = .ok ⟨{ u with path := Url.slashed u.path }⟩ := by
  rcases Url.isPath_of_parse h hweb with ⟨hauthority, hpath⟩
  have hhierarchical : (!u.isHierarchical) = false := by
    rw [Url.isHierarchical, hauthority]
    rfl
  -- A path that is set is read once more, but this one is read as it is.
  have hfolder := hpath.isFolder_slashed
  unfold ofAddress
  rw [h]
  dsimp only
  rw [hhierarchical]
  rw [Url.slashed] at hfolder ⊢
  split at hfolder
  · rename_i hslash
    rw [if_neg Bool.false_ne_true, if_pos hslash, if_pos hslash]
  · rename_i hslash
    rw [if_neg Bool.false_ne_true, if_neg hslash, if_neg hslash,
      Url.setPath_of_isFolder hweb hfolder]

/-- A server of the web has such an address. -/
theorem exists_parse_of_ofAddress {s : TableServer} (h : ofAddress base = .ok s)
    (hweb : s.address.kind = .web) : ∃ u, Url.parse base = .ok u ∧ u.kind = .web ∧
      s = ⟨{ u with path := Url.slashed u.path }⟩ := by
  cases hparse : Url.parse base with
  | error e =>
      rw [ofAddress, hparse] at h
      cases h
  | ok u =>
      -- Setting the path does not touch the scheme.
      have hu : u.kind = .web := by
        unfold ofAddress at h
        rw [hparse] at h
        dsimp only at h
        split at h
        · cases h
        · split at h
          · cases h
            exact hweb
          · cases h
            exact hweb
      refine ⟨u, rfl, hu, ?_⟩
      rw [ofAddress_of_parse hparse hu] at h
      exact (Except.ok.inj h).symm

/-- The address of a table continues that of its server. -/
theorem tableUrl_of_parse (h : Url.parse base = .ok u) (hweb : u.kind = .web)
    (hv : IsPlainName v.tag) (t : TableName) :
    tableUrl ⟨{ u with path := Url.slashed u.path }⟩ t v = .ok (u.below (tablePath v t)) := by
  rcases Url.isPath_of_parse h hweb with ⟨hauthority, hpath⟩
  have hjoin := Url.join_of_isBelow (u := { u with path := Url.slashed u.path }) hweb hauthority
    hpath.isFolder_slashed (isBelow_tablePath hv t)
  rw [tableUrl, hjoin]
  rfl

/-- Servers of the web whose addresses differ in a slash have their tables at the same
    addresses. -/
theorem tableUrl_eq_of_sameFolder {base' : String} {s s' : TableServer} {u u' : Url}
    (h : ofAddress base = .ok s) (hweb : s.address.kind = .web) (h' : ofAddress base' = .ok s')
    (hparse : Url.parse base = .ok u) (hparse' : Url.parse base' = .ok u') (hsame : u.SameFolder u')
    (hv : IsPlainName v.tag) (t : TableName) : s'.tableUrl t v = s.tableUrl t v := by
  rcases exists_parse_of_ofAddress h hweb with ⟨parsed, hparsed, hu, rfl⟩
  rw [hparse] at hparsed
  cases hparsed
  have hu' : u'.kind = .web := hsame.kind_eq.trans hu
  rw [ofAddress_of_parse hparse' hu'] at h'
  cases h'
  rw [tableUrl_of_parse hparse hu hv, tableUrl_of_parse hparse' hu' hv, hsame.below_eq]

/-- Whatever the address of a server of the web is, the tables have addresses. -/
theorem exists_tableUrl {s : TableServer} (h : ofAddress base = .ok s)
    (hweb : s.address.kind = .web) (hv : IsPlainName v.tag) (t : TableName) :
    ∃ u, Url.parse base = .ok u ∧ s.tableUrl t v = .ok (u.below (tablePath v t)) ∧
      (u.below (tablePath v t)).toText = Path.rooted u.bare.toText ++ tablePath v t := by
  rcases exists_parse_of_ofAddress h hweb with ⟨u, hparse, hu, rfl⟩
  rcases Url.isPath_of_parse hparse hu with ⟨hauthority, hpath⟩
  exact ⟨u, hparse, tableUrl_of_parse hparse hu hv t, Url.toText_below hauthority hpath _⟩

/-- Different tables of a server have different addresses. -/
theorem tableUrl_ne {s : TableServer} (h : ofAddress base = .ok s) (hweb : s.address.kind = .web)
    (hv : IsPlainName v.tag) (hw : IsPlainName w.tag) {t r : TableName} (hne : (v, t) ≠ (w, r)) :
    (s.tableUrl t v).map Url.toText ≠ (s.tableUrl r w).map Url.toText := by
  rcases exists_tableUrl h hweb hv t with ⟨u, hparse, hurl, htext⟩
  rcases exists_tableUrl h hweb hw r with ⟨u', hparse', hurl', htext'⟩
  rw [hparse] at hparse'
  cases hparse'
  -- Both texts start with the text of the address.
  rw [hurl, hurl']
  intro heq
  have hsame : (u.below (tablePath v t)).toText = (u.below (tablePath w r)).toText :=
    Except.ok.inj heq
  rw [htext, htext'] at hsame
  exact tablePath_ne hv hw hne ((String.append_right_inj _).mp hsame)

/-- A server of the web has the same tables with a slash behind the text of its address. -/
theorem exists_ofAddress_append_slash {s : TableServer} (h : ofAddress base = .ok s)
    (hweb : s.address.kind = .web) (hend : Url.EndsPlainly base.toList) (hv : IsPlainName v.tag)
    (t : TableName) :
    ∃ s', ofAddress (base ++ "/") = .ok s' ∧ s'.tableUrl t v = s.tableUrl t v := by
  rcases exists_parse_of_ofAddress h hweb with ⟨u, hparse, hu, -⟩
  rcases Url.exists_parse_append_slash hparse hu hend with ⟨u', hparse', hsame⟩
  have h' := ofAddress_of_parse hparse' (hsame.kind_eq.trans hu)
  exact ⟨_, h', tableUrl_eq_of_sameFolder h hweb h' hparse hparse' hsame hv t⟩

end TableServer

/-! ## The layout -/

/-- The tables of a version whose tag can name a folder have the same layout below every
    root. In a folder they are at its path, with a slash behind it unless it is empty, and
    behind that the path of the table. On a server of the web they are at its address, of which
    nothing is lost but query and fragment, with a slash behind it and the path of the table.
    Different tables are different files, on every disk, and have different addresses. A slash
    at the end of the path of an address makes no difference, and in its text neither, if the
    text does not end in a slash already or in a blank that does not count. -/
theorem tables_share_layout (hv : IsPlainName v.tag) (t : TableName) :
    (∀ root, TableFolder.tablePath ⟨root⟩ t v = Path.rooted root ++ tablePath v t) ∧
    (∀ base s, TableServer.ofAddress base = .ok s → s.address.kind = .web →
      ∃ u, Url.parse base = .ok u ∧ s.tableUrl t v = .ok (u.below (tablePath v t)) ∧
        (u.below (tablePath v t)).toText = Path.rooted u.bare.toText ++ tablePath v t) ∧
    (∀ w r, IsPlainName w.tag → (v, t) ≠ (w, r) →
      (∀ root, TableFolder.tablePath ⟨root⟩ t v ≠ TableFolder.tablePath ⟨root⟩ r w ∧
        ∀ (d : Disk) l k, d.locate (TableFolder.tablePath ⟨root⟩ t v) = .ok l →
          d.locate (TableFolder.tablePath ⟨root⟩ r w) = .ok k → l.names ≠ k.names) ∧
      (∀ base s, TableServer.ofAddress base = .ok s → s.address.kind = .web →
        (s.tableUrl t v).map Url.toText ≠ (s.tableUrl r w).map Url.toText)) ∧
    (∀ base base' s s' u u', TableServer.ofAddress base = .ok s → s.address.kind = .web →
      TableServer.ofAddress base' = .ok s' → Url.parse base = .ok u → Url.parse base' = .ok u' →
      u.SameFolder u' → s'.tableUrl t v = s.tableUrl t v) ∧
    (∀ base s, TableServer.ofAddress base = .ok s → s.address.kind = .web →
      Url.EndsPlainly base.toList →
      ∃ s', TableServer.ofAddress (base ++ "/") = .ok s' ∧ s'.tableUrl t v = s.tableUrl t v) := by
  refine ⟨fun root => TableFolder.tablePath_eq_rooted_append ⟨root⟩ hv t, ?_, ?_, ?_, ?_⟩
  · intro base s hs hweb
    exact TableServer.exists_tableUrl hs hweb hv t
  · intro w r hw hne
    refine ⟨fun root => TableFolder.tablePath_ne ⟨root⟩ hv hw hne, fun base s hs hweb => ?_⟩
    exact TableServer.tableUrl_ne hs hweb hv hw hne
  · intro base base' s s' u u' hs hweb hs' hparse hparse' hsame
    exact TableServer.tableUrl_eq_of_sameFolder hs hweb hs' hparse hparse' hsame hv t
  · intro base s hs hweb hend
    exact TableServer.exists_ofAddress_append_slash hs hweb hend hv t

/-- Two tables of a version below a folder, and below a server whose address lacks its
    slash. -/
theorem tables_share_layout_export :
    let v : GameVersion := ⟨"4.1.0.11"⟩
    let base := "http://[::1]/export"
    let u : Url := ⟨"http".toList, some ⟨[], .ipv6 [0, 0, 0, 0, 0, 0, 0, 1], none⟩,
      "/export".toList, none, none⟩
    let s : TableServer := ⟨{ u with path := "/export/".toList }⟩
    let s' : TableServer := ⟨{ s.address with query := some "all".toList }⟩
    let d : Disk := ⟨[(["export"], .folder), (["export", v.tag], .folder),
      (["export", v.tag, "tables"], .folder)], []⟩
    let l : Location := .entry ["export", v.tag, "tables"] "ItemClasses.json" false
    let k : Location := .entry ["export", v.tag, "tables"] "ShieldTypes.json" false
    IsPlainName v.tag ∧ TableServer.ofAddress base = .ok s ∧ s.address.kind = .web ∧
      Url.EndsPlainly base.toList ∧ TableServer.ofAddress (base ++ "/?all") = .ok s' ∧
      d.locate (TableFolder.tablePath ⟨"export"⟩ .itemClasses v) = .ok l ∧
      d.locate (TableFolder.tablePath ⟨"export"⟩ .shieldTypes v) = .ok k ∧
      TableFolder.tablePath ⟨"export"⟩ .itemClasses v =
        Path.rooted "export" ++ tablePath v .itemClasses ∧
      s.tableUrl .itemClasses v = .ok (u.below (tablePath v .itemClasses)) ∧
      l.names ≠ k.names ∧
      (s.tableUrl .itemClasses v).map Url.toText ≠ (s.tableUrl .shieldTypes v).map Url.toText ∧
      s'.tableUrl .itemClasses v = s.tableUrl .itemClasses v ∧
      ∃ s'', TableServer.ofAddress (base ++ "/") = .ok s'' ∧
        s''.tableUrl .itemClasses v = s.tableUrl .itemClasses v := by
  intro v base u s s' d l k
  have hv : IsPlainName v.tag := ⟨List.all_eq_true.mp (by decide), by decide, by decide, by decide⟩
  have hs : TableServer.ofAddress base = .ok s := by decide +kernel
  have hs' : TableServer.ofAddress (base ++ "/?all") = .ok s' := by decide +kernel
  have hparse : Url.parse base = .ok u := by decide +kernel
  have hparse' : Url.parse (base ++ "/?all") = .ok s'.address := by decide +kernel
  have hsame : u.SameFolder s'.address := ⟨by decide, by decide, by decide⟩
  have hweb : s.address.kind = .web := by decide
  have hend : Url.EndsPlainly base.toList := by
    have hlast : base.toList.getLast? = some 't' := by decide
    intro c hc
    rw [hlast] at hc
    cases hc
    exact ⟨by decide, by decide⟩
  have hl : d.locate (TableFolder.tablePath ⟨"export"⟩ .itemClasses v) = .ok l := by decide +kernel
  have hk : d.locate (TableFolder.tablePath ⟨"export"⟩ .shieldTypes v) = .ok k := by decide +kernel
  rcases tables_share_layout hv .itemClasses with ⟨hfolder, hserver, hother, hsameFolder, hslash⟩
  rcases hserver base s hs hweb with ⟨parsed, hparsed, hurl, -⟩
  rcases hother v .shieldTypes hv (by decide) with ⟨hfiles, haddresses⟩
  rw [hparse] at hparsed
  cases hparsed
  exact ⟨hv, hs, hweb, hend, hs', hl, hk, hfolder "export", hurl, (hfiles "export").2 d l k hl hk,
    haddresses base s hs hweb, hsameFolder _ _ s s' u _ hs hweb hs' hparse hparse' hsame,
    hslash base s hs hweb hend⟩

/-- Below a server the empty version is not a folder of its own: the path of its tables starts with
    a slash and replaces that of the address. -/
theorem not_forall_table_follows_address :
    ¬ ∀ v : GameVersion, (∀ c ∈ v.tag.toList, isTagChar c = true) → v.tag ≠ "." → v.tag ≠ ".." →
      ∀ t base s, TableServer.ofAddress base = .ok s → s.address.kind = .web →
        ∃ u, Url.parse base = .ok u ∧
          (s.tableUrl t v).map Url.toText = .ok (Path.rooted u.bare.toText ++ tablePath v t) := by
  intro h
  let u : Url := ⟨"http".toList, some ⟨[], .ipv6 [0, 0, 0, 0, 0, 0, 0, 1], none⟩,
    "/export".toList, none, none⟩
  let s : TableServer := ⟨{ u with path := "/export/".toList }⟩
  have hparse : Url.parse "http://[::1]/export" = .ok u := by
    decide +kernel
  have hs : TableServer.ofAddress "http://[::1]/export" = .ok s := by
    decide +kernel
  rcases h ⟨""⟩ (List.forall_mem_nil _) (by decide) (by decide) .baseItemTypes _ s hs (by decide)
    with ⟨u', hparse', hurl⟩
  rw [hparse] at hparse'
  cases hparse'
  exact absurd hurl (by decide +kernel)

end LootFilter
