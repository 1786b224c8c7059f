import Courier.Http.Url
import Courier.Proofs.Text.Ascii
import Courier.Proofs.Text.Utf8

/-!
# Hosts of web addresses

A web address that can be read names a server.  Its host may be any name that can be looked up; one
in lower case and ASCII is looked up as it is written.
-/

namespace Courier

open Text

variable {cs : List Char}

/-! ## Plain names -/

namespace Text

variable {isSeparator : Char → Bool}

theorem pieces_ne_nil (isSeparator : Char → Bool) (cs : List Char) :
    pieces isSeparator cs ≠ [] := by
  cases cs with
  | nil => exact List.cons_ne_nil [] []
  | cons c cs =>
    rw [pieces]
    split
    · split <;> exact List.cons_ne_nil _ _
    · exact List.cons_ne_nil _ _

theorem pieces_cons {c : Char} {first : List Char} {others : List (List Char)}
    (hcs : pieces isSeparator cs = first :: others) : pieces isSeparator (c :: cs) =
      if isSeparator c then [] :: first :: others else (c :: first) :: others := by
  rw [pieces, hcs]

/-- The pieces with the separator between them are the text. -/
theorem flatten_pieces (separator : Char) (cs : List Char) :
    ((pieces (· = separator) cs).intersperse [separator]).flatten = cs := by
  induction cs with
  | nil => rfl
  | cons c cs ih =>
    obtain ⟨first, others, hcs⟩ := List.exists_cons_of_ne_nil (pieces_ne_nil (· = separator) cs)
    rw [hcs] at ih
    rw [pieces_cons hcs]
    split
    · next hc =>
      rw [List.intersperse_cons_cons, List.flatten_cons, List.flatten_cons, ih,
        of_decide_eq_true hc]
      rfl
    · cases others with
      | nil => rw [← ih]; rfl
      | cons second others =>
        rw [List.intersperse_cons_cons, List.flatten_cons] at ih ⊢
        rw [List.cons_append, ih]

theorem mem_of_mem_pieces {piece : List Char} (hpiece : piece ∈ pieces isSeparator cs) :
    ∀ c ∈ piece, c ∈ cs := by
  induction cs generalizing piece with
  | nil => rw [List.mem_singleton.mp hpiece]; exact fun _ hc ↦ hc
  | cons c cs ih =>
    obtain ⟨first, others, hcs⟩ := List.exists_cons_of_ne_nil (pieces_ne_nil isSeparator cs)
    have hold {piece : List Char} (hmem : piece ∈ first :: others) : ∀ d ∈ piece, d ∈ c :: cs :=
      fun d hd ↦ List.mem_cons_of_mem c (ih (hcs ▸ hmem) d hd)
    rw [pieces_cons hcs] at hpiece
    split at hpiece
    · rcases List.mem_cons.mp hpiece with rfl | hmem
      · exact fun _ hd ↦ absurd hd List.not_mem_nil
      · exact hold hmem
    · rcases List.mem_cons.mp hpiece with rfl | hmem
      · intro d hd
        rcases List.mem_cons.mp hd with rfl | hd
        · exact List.mem_cons_self
        · exact hold List.mem_cons_self d hd
      · exact hold (List.mem_cons_of_mem first hmem)

end Text

theorem mapM_eq_some_map {α β : Type} {f : α → Option β} {g : α → β} {xs : List α}
    (hxs : ∀ x ∈ xs, f x = some (g x)) : xs.mapM f = some (xs.map g) := by
  induction xs with
  | nil => rfl
  | cons x xs ih =>
    rw [List.mapM_cons, hxs x List.mem_cons_self, ih fun y hy ↦ hxs y (List.mem_cons_of_mem x hy)]
    rfl

namespace Domain

/-- A name without capitals, whose labels are all looked up as they are written. -/
structure IsPlain (cs : List Char) : Prop where
  ascii : ∀ c ∈ cs, c.toNat < 0x80
  lower : ∀ c ∈ cs, c.toLower = c
  allowed : ∀ c ∈ cs, isForbidden c = false
  unmarked : ∀ label ∈ pieces (· = '.') cs, mark.isPrefixOf label = false

/-- Whether a name is plain can be computed. -/
theorem isPlain_of_all
    (hchars : (cs.all fun c ↦ decide (c.toNat < 0x80) && c.toLower == c && !isForbidden c) = true)
    (hlabels : ((pieces (· = '.') cs).all fun label ↦ !mark.isPrefixOf label) = true) :
    IsPlain cs := by
  simp only [List.all_eq_true, Bool.and_eq_true, decide_eq_true_eq, beq_iff_eq,
    Bool.not_eq_true'] at hchars hlabels
  exact ⟨fun c hc ↦ (hchars c hc).1.1, fun c hc ↦ (hchars c hc).1.2, fun c hc ↦ (hchars c hc).2,
    hlabels⟩

theorem normal_of_isPlain (hcs : IsPlain cs) : normal cs = some cs := by
  have hmap : cs.mapM mapChar = some (cs.map fun c ↦ [c.toNat]) := by
    refine mapM_eq_some_map fun c hc ↦ ?_
    unfold mapChar
    dsimp only
    rw [if_pos (hcs.ascii c hc), hcs.lower c hc]
  have hnumbers : ∀ n ∈ cs.map Char.toNat, n < 0x80 := by
    intro n hn
    obtain ⟨c, hc, rfl⟩ := List.mem_map.mp hn
    exact hcs.ascii c hc
  have hflatten : (cs.map fun c ↦ [c.toNat]).flatten = cs.map Char.toNat := by
    rw [← List.flatMap_def, List.map_eq_flatMap]
  have hchars : cs.map (Char.ofNat ∘ Char.toNat) = cs :=
    (List.map_congr_left fun c _ ↦ Char.ofNat_toNat c).trans (List.map_id cs)
  rw [normal, hmap, Option.map_some, hflatten, compose_of_lt hnumbers, List.map_map, hchars]

theorem toAscii_of_isPlain (hcs : IsPlain cs) : toAscii cs = some cs := by
  have hascii {label : List Char} (hlabel : label ∈ pieces (· = '.') cs) :
      ∀ c ∈ label, c.toNat < 0x80 := fun c hc ↦ hcs.ascii c (mem_of_mem_pieces hlabel c hc)
  have hallowed : cs.any isForbidden = false := by
    rw [List.any_eq_false]
    exact fun c hc ↦ by rw [hcs.allowed c hc]; exact Bool.false_ne_true
  have hlabels : (pieces (· = '.') cs).mapM Label.read =
      some ((pieces (· = '.') cs).map fun label ↦ ⟨label, label⟩) := by
    refine mapM_eq_some_map fun label hlabel ↦ ?_
    have hunmarked : ¬ mark.isPrefixOf label = true := by simp [hcs.unmarked label hlabel]
    rw [Label.read, if_neg hunmarked, if_pos]
    exact List.all_eq_true.mpr fun c hc ↦ decide_eq_true (hascii hlabel c hc)
  have hsound : ((pieces (· = '.') cs).map fun label ↦ (⟨label, label⟩ : Label)).all Label.isSound =
      true := by
    rw [List.all_map, List.all_eq_true]
    intro label hlabel
    have hfirst : label.head?.any isMark = false := by
      cases label with
      | nil => rfl
      | cons c label => exact isMark_of_lt (hascii hlabel c List.mem_cons_self)
    rw [Function.comp_apply, Label.isSound, hfirst]
    exact Joining.allFit_of_lt [] (hascii hlabel)
  have hdirected : isWellDirected (pieces (· = '.') cs) = true :=
    isWellDirected_of_lt fun label hlabel ↦ hascii hlabel
  have hshown : ((pieces (· = '.') cs).map fun label ↦ (⟨label, label⟩ : Label)).map Label.shown =
      pieces (· = '.') cs := by
    rw [List.map_map]
    exact List.map_id _
  have hwritten : ((pieces (· = '.') cs).map fun label ↦ (⟨label, label⟩ : Label)).map
      Label.written = pieces (· = '.') cs := by
    rw [List.map_map]
    exact List.map_id _
  simp only [toAscii, normal_of_isPlain hcs, hallowed, hlabels, hsound, hshown, hdirected, hwritten,
    Option.bind_eq_bind, Option.bind_some, Bool.false_eq_true, if_false, Bool.and_self, if_true,
    flatten_pieces]

end Domain

/-! ## Hosts -/

namespace Host

variable {host : Host}

theorem ne_name_nil_of_read (hread : read cs = .ok host) : host ≠ .name [] := by
  unfold read at hread
  split at hread
  · contradiction
  · split at hread
    · split at hread
      · obtain rfl := Except.ok.inj hread
        simp
      · contradiction
    · contradiction
  · split at hread
    · contradiction
    · contradiction
    · next chars hne _ =>
      split at hread
      · split at hread
        · obtain rfl := Except.ok.inj hread
          simp
        · contradiction
      · obtain rfl := Except.ok.inj hread
        rintro hnil
        exact hne (Host.name.inj hnil)

theorem decode_of_not_mem {bytes : Bytes} (hbytes : 37 ∉ bytes) :
    Percent.decode bytes = bytes := by
  induction bytes with
  | nil => rfl
  | cons b bytes ih =>
    have hb : b ≠ 37 := fun hb ↦ hbytes (hb ▸ List.mem_cons_self)
    have hrest := ih fun hmem ↦ hbytes (List.mem_cons_of_mem b hmem)
    rw [Percent.decode, hrest]
    rintro _ _ _ rfl
    exact absurd rfl hb

theorem readName_of_isPlain (hcs : Domain.IsPlain cs) :
    readName (Percent.decode (Utf8.encodeChars cs)) = some cs := by
  have hpercent : 37 ∉ Utf8.encodeChars cs := by
    intro hmem
    obtain ⟨c, hc, hbyte⟩ := List.mem_flatMap.mp hmem
    have hascii := hcs.ascii c hc
    have hone : Utf8.encodeChar c = [UInt8.ofNat c.toNat] := if_pos hascii
    rw [hone, List.mem_singleton, ← UInt8.toNat_inj, Utf8.toNat_ofNat_of_lt (by omega)] at hbyte
    obtain rfl : '%' = c := Char.toNat_inj.mp hbyte
    exact absurd (hcs.allowed '%' hc) (by decide)
  obtain ⟨chars, hchars, hsame⟩ := Option.map_eq_some_iff.mp (Utf8.decode?_encodeChars cs)
  obtain rfl : chars = cs := String.ofList_injective hsame
  rw [decode_of_not_mem hpercent, readName, hchars]
  exact Domain.toAscii_of_isPlain hcs

/-- A plain name is a host, unless it looks like a number. -/
theorem read_of_isPlain (hcs : Domain.IsPlain cs) (hne : cs ≠ [])
    (hnumber : endsInNumber cs = false) : read cs = .ok (.name cs) := by
  have hname := readName_of_isPlain hcs
  obtain ⟨c, rest, rfl⟩ := List.exists_cons_of_ne_nil hne
  have hbracket : c ≠ '[' := by
    rintro rfl
    exact absurd (hcs.allowed '[' List.mem_cons_self) (by decide)
  unfold read
  split
  · contradiction
  · next heq => exact absurd (List.cons.inj heq).1 hbracket
  · rw [hname]
    dsimp only
    rw [hnumber]
    rfl

end Host

/-! ## Addresses -/

namespace Url

variable {url : Url} {scheme place left : List Char} {authority : Authority} {followed : Bool}

theorem isFile_of_isWeb (hweb : isWeb scheme = true) : isFile scheme = false := by
  rw [isFile, decide_eq_false_iff_not]
  rintro rfl
  exact absurd hweb (by decide)

theorem read_of_mapError {name : List Char} {host : Host}
    (hread : (Host.read name).mapError Defect.host = .ok host) : Host.read name = .ok host := by
  cases hname : Host.read name with
  | error defect => rw [hname] at hread; contradiction
  | ok found => rw [hname] at hread; exact congrArg Except.ok (Except.ok.inj hread)

theorem host_of_readAuthority (hweb : isWeb scheme = true)
    (hread : readAuthority scheme place followed = .ok (authority, left)) :
    ∃ host, authority.host = some host ∧ host ≠ .name [] := by
  simp only [readAuthority, hweb, if_true, bind, Except.bind] at hread
  split at hread
  · contradiction
  · next host hhost =>
    split at hread
    · contradiction
    · obtain ⟨rfl, -⟩ := Prod.mk.inj (Except.ok.inj hread)
      exact ⟨host, rfl, Host.ne_name_nil_of_read (read_of_mapError hhost)⟩

/-- Whoever reads a web address finds a server in it. -/
theorem hasServer_of_read (hread : read cs = .ok url) (hweb : isWeb url.scheme = true) :
    url.hasServer = true := by
  unfold read at hread
  split at hread
  · contradiction
  · next scheme rest _ =>
    simp only [bind, Except.bind] at hread
    split at hread
    · contradiction
    · next found hplace =>
      obtain rfl := Except.ok.inj hread
      have hweb : isWeb scheme = true := hweb
      simp only [readPlace, isFile_of_isWeb hweb, hweb, Bool.false_eq_true, if_false, if_true, bind,
        Except.bind] at hplace
      split at hplace
      · contradiction
      · next authority hauthority =>
        obtain ⟨host, hhost, hne⟩ := host_of_readAuthority hweb hauthority
        obtain rfl := Except.ok.inj hplace
        rw [hasServer, hhost, Option.any_some]
        exact decide_eq_true hne

/-- A web address with a host and a path only. -/
theorem read_web {rest name : List Char} {host : Host} {service : Option Nat}
    {serviceText : Option (List Char)} (hscheme : readScheme (clean cs) = some (scheme, rest))
    (hweb : isWeb scheme = true) (hfragment : cutAt (· = '#') rest = (rest, none))
    (hquery : cutAt (· = '?') rest = (rest, none))
    (hplace : (rest.dropWhile isSlash).takeWhile (fun c ↦ !isSlash c) = place)
    (huser : cutLastAt place = (none, place)) (hhost : cutHost false place = (name, serviceText))
    (hservice : readService (serviceText.getD []) = .ok (service, []))
    (hname : Host.read name = .ok host) :
    read cs = .ok
      { scheme
        user := []
        password := none
        host := some host
        service := service.filter fun n ↦ usualService (String.ofList scheme) ≠ some n
        path := webPath ((rest.dropWhile isSlash).dropWhile fun c ↦ !isSlash c)
        query := none
        fragment := none } := by
  simp only [read, hscheme, hfragment, hquery, readPlace, isFile_of_isWeb hweb, hweb,
    Bool.false_eq_true, if_false, if_true, readAuthority, hplace, huser, hhost, hname, hservice,
    Except.mapError, bind, Except.bind, Option.map_none]
  rfl

end Url

end Courier
