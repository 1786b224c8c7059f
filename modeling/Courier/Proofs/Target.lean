import Courier.Http.Url
import Courier.Proofs.Settings
import Mathlib.Data.List.DropRight

/-!
# From the link address to the target

The check of the link address looks at its beginning and the target is made by cutting off slashes
at its end.  All calls of a run go to the target of its terms, which is the address without the
slashes at its end, followed by the echo path.  The scheme stays in front as long as something other
than slashes follows it.  Where nothing does, the slashes of the scheme are cut off as well, and the
first part of the echo path takes the place of the host.
-/

namespace Courier

/-! ## Slashes at the end -/

namespace Request

variable {cs behind : List Char} {scheme rest : String}

theorem stripSlashes_append_replicate (cs : List Char) (count : Nat) :
    stripSlashes (cs ++ List.replicate count '/') = stripSlashes cs := by
  induction count with
  | zero => rw [List.replicate_zero, List.append_nil]
  | succ count ih =>
    rw [List.replicate_succ', ← List.append_assoc, ← ih]
    exact List.rdropWhile_concat_pos _ _ _ rfl

theorem exists_eq_stripSlashes_append (cs : List Char) :
    ∃ count, cs = stripSlashes cs ++ List.replicate count '/' := by
  refine ⟨(cs.rtakeWhile (· == '/')).length, ?_⟩
  have hslashes : cs.rtakeWhile (· == '/') =
      List.replicate (cs.rtakeWhile (· == '/')).length '/' := by
    apply List.eq_replicate_of_mem
    intro c hc
    exact eq_of_beq (List.mem_rtakeWhile_imp (p := (· == '/')) hc)
  rw [← hslashes]
  exact List.rdropWhile_append_rtakeWhile.symm

theorem getLast?_stripSlashes (cs : List Char) : (stripSlashes cs).getLast? ≠ some '/' := by
  by_cases hne : stripSlashes cs = []
  · rw [hne, List.getLast?_nil]
    exact (Option.some_ne_none _).symm
  · rw [List.getLast?_eq_some_getLast hne]
    intro hslash
    exact List.rdropWhile_last_not _ cs hne (beq_of_eq (Option.some.inj hslash))

theorem stripSlashes_of_getLast? (hlast : cs.getLast? ≠ some '/') : stripSlashes cs = cs := by
  apply List.rdropWhile_eq_self_iff.mpr
  intro hne hslash
  rw [List.getLast?_eq_some_getLast hne] at hlast
  exact hlast (congrArg some (eq_of_beq hslash))

/-- Cutting stops at a character that is no slash. -/
theorem stripSlashes_append (before : List Char) (hbehind : ∃ c ∈ behind, c ≠ '/') :
    stripSlashes (before ++ behind) = before ++ stripSlashes behind := by
  obtain ⟨count, hsplit⟩ := exists_eq_stripSlashes_append behind
  have hne : stripSlashes behind ≠ [] := by
    intro hnil
    obtain ⟨c, hc, hslash⟩ := hbehind
    rw [hsplit, hnil, List.nil_append] at hc
    exact hslash (List.eq_of_mem_replicate hc)
  have hlast : (before ++ stripSlashes behind).getLast? ≠ some '/' := by
    rw [List.getLast?_append_of_ne_nil _ hne]
    exact getLast?_stripSlashes behind
  calc stripSlashes (before ++ behind)
    _ = stripSlashes (before ++ stripSlashes behind ++ List.replicate count '/') := by
      rw [List.append_assoc, ← hsplit]
    _ = before ++ stripSlashes behind := by
      rw [stripSlashes_append_replicate, stripSlashes_of_getLast? hlast]

/-- So many slashes. -/
def slashes (count : Nat) : String := String.ofList (List.replicate count '/')

theorem targetOf_append_slashes (address : String) (count : Nat) :
    targetOf (address ++ slashes count) = targetOf address := by
  rw [targetOf, slashes, String.toList_append, String.toList_ofList,
    stripSlashes_append_replicate, targetOf]

/-- The target of an address is the address without the slashes at its end, followed by the path. -/
theorem exists_base (address : String) : ∃ base count, address = base ++ slashes count ∧
    base.toList.getLast? ≠ some '/' ∧ targetOf address = base ++ "/link/echo" := by
  obtain ⟨count, hsplit⟩ := exists_eq_stripSlashes_append address.toList
  refine ⟨String.ofList (stripSlashes address.toList), count, ?_, ?_, rfl⟩
  · rw [slashes, ← String.ofList_append, ← hsplit, String.ofList_toList]
  · rw [String.toList_ofList]
    exact getLast?_stripSlashes address.toList

/-- Whatever stands before a character that is no slash stays in front. -/
theorem targetOf_append (before : String) (hrest : ∃ c ∈ rest.toList, c ≠ '/') :
    targetOf (before ++ rest) = before ++ targetOf rest := by
  rw [targetOf, targetOf, String.toList_append, stripSlashes_append _ hrest, String.ofList_append,
    String.ofList_toList, String.append_assoc]

/-- Slashes are cut off up to the scheme, which keeps only its colon. -/
theorem targetOf_append_of_slashes (hscheme : scheme.toList.getLast? ≠ some '/')
    (hrest : ∀ c ∈ rest.toList, c = '/') : targetOf (scheme ++ rest) = scheme ++ "/link/echo" := by
  rw [targetOf, String.toList_append, List.eq_replicate_of_mem hrest,
    stripSlashes_append_replicate, stripSlashes_of_getLast? hscheme, String.ofList_toList]

end Request

/-! ## Calls -/

namespace Run

variable {σ : Type} {target : String} {terms : Terms} {link : Link σ} {now : Moment}
  {cancelled : Bool} {run next : Run} {s after : σ}

/-- The calls of the run went to the target, and so will the next one. -/
structure Aims (target : String) (run : Run) : Prop where
  calls : ∀ call ∈ run.calls, call.2.target = target
  phase : ∀ request stage, run.phase = .working request stage → request.target = target

theorem aims_of_over {ending : Ending} (hcalls : ∀ call ∈ run.calls, call.2.target = target)
    (hover : run.phase = .over ending now) : run.Aims target := by
  refine ⟨hcalls, ?_⟩
  intro request stage hworking
  rw [hover] at hworking
  contradiction

theorem aims_of_working {request : Request} {stage : Stage}
    (hcalls : ∀ call ∈ run.calls, call.2.target = target)
    (hphase : run.phase = .working request stage) (hrequest : request.target = target) :
    run.Aims target := by
  refine ⟨hcalls, ?_⟩
  intro asked stage hworking
  rw [hphase] at hworking
  cases hworking
  exact hrequest

theorem aims_start (terms : Terms) (payload : Bytes) (now : Moment) :
    (start terms payload now).Aims terms.target := by
  have hcalls : ∀ call ∈ ([] : List (Moment × Request)), call.2.target = terms.target :=
    fun _ hcall ↦ absurd hcall List.not_mem_nil
  cases hdecode : Event.decode payload with
  | ok event =>
    rw [Solo.start_eq hdecode]
    exact aims_of_working hcalls rfl rfl
  | error defect =>
    rw [Solo.start_eq_of_error hdecode]
    exact aims_of_over hcalls rfl

/-- A move makes a call of the request at hand and keeps the request for the next one. -/
theorem Moves.aims (h : Moves terms link now cancelled run s next after)
    (haims : run.Aims target) : next.Aims target := by
  cases h with
  | cancel => exact aims_of_over haims.calls rfl
  | expire => exact aims_of_over haims.calls rfl
  | @call request hphase =>
    have hrequest := haims.phase _ _ hphase
    refine aims_of_working ?_ rfl hrequest
    intro call hcall
    rcases List.mem_append.mp hcall with hcall | hcall
    · exact haims.calls call hcall
    · rw [List.mem_singleton.mp hcall]
      exact hrequest
  | abandon => exact aims_of_over haims.calls rfl
  | fail => exact aims_of_over haims.calls rfl
  | @receive request since due reply hphase =>
    have hcalls := haims.calls
    rw [← receive_calls terms run request since now reply] at hcalls
    rcases receive_cases terms run request since now reply with
      ⟨ending, hover⟩ | ⟨delay, reason, _, _, _, hresting⟩
    · exact aims_of_over hcalls hover
    · exact aims_of_working hcalls hresting (haims.phase _ _ hphase)
  | overrun => exact aims_of_over haims.calls rfl
  | wake hphase => exact aims_of_working haims.calls rfl (haims.phase _ _ hphase)

theorem kept_aims (terms : Terms) (link : Link σ) :
    Kept terms link fun run ↦ run.Aims terms.target where
  start payload now := aims_start terms payload now
  move hmove haims := hmove.aims haims

end Run

/-- The run that the worker is busy with, if any, goes to the target. -/
def Worker.Aims (target : String) : Worker → Prop
  | .busy _ run => run.Aims target
  | _ => True

/-- Whatever is done in a pool, the calls of its runs go to the target of its terms. -/
theorem Pool.aims_of_perform {σ : Type} {setup : Setup σ} {pool : Pool σ} {n : Nat} {s : σ}
    {actions : List Action} (h : perform setup actions (start n s) = some pool) :
    ∀ worker ∈ pool.workers, worker.Aims setup.terms.target := by
  intro worker hworker
  cases worker with
  | busy ticket run => exact (keeps_of_perform (Run.kept_aims _ _) h).running ticket run hworker
  | _ => trivial

/-! ## Reading a target -/

namespace Url

/-- One more slash in front of the authority of a web address does not count. -/
theorem readPlace_cons {scheme : List Char} (hweb : isWeb scheme = true)
    (hfile : ¬ isFile scheme = true) (cs : List Char) (followed : Bool) :
    readPlace scheme ('/' :: cs) followed = readPlace scheme cs followed := by
  have hslash : ('/' :: cs).dropWhile isSlash = cs.dropWhile isSlash := rfl
  unfold readPlace
  rw [if_neg hfile, if_pos hweb, if_neg hfile, if_pos hweb]
  dsimp only
  rw [hslash]

theorem read_echo : read "http:/link/echo".toList = read "http://link/echo".toList := by
  have hone : readScheme (clean "http:/link/echo".toList) =
      some ("http".toList, "/link/echo".toList) := by decide +kernel
  have htwo : readScheme (clean "http://link/echo".toList) =
      some ("http".toList, '/' :: "/link/echo".toList) := by decide +kernel
  have hplain (cs : List Char) (hcs : cs = "/link/echo".toList ∨ cs = '/' :: "/link/echo".toList) :
      cutAt (· = '#') cs = (cs, none) ∧ cutAt (· = '?') cs = (cs, none) := by
    rcases hcs with rfl | rfl <;> decide +kernel
  obtain ⟨hfragment, hquery⟩ := hplain _ (.inl rfl)
  obtain ⟨hfragment', hquery'⟩ := hplain _ (.inr rfl)
  unfold read
  rw [hone, htwo]
  dsimp only
  rw [hfragment, hfragment']
  dsimp only
  rw [hquery, hquery']
  dsimp only
  rw [readPlace_cons (by decide +kernel) (by decide +kernel)]

end Url

/-! ## Settings -/

namespace Settings

variable {settings : Settings} {address scheme rest : String}

open Request

theorem exists_eq_append {text : String} (h : text.toList.isPrefixOf address.toList = true) :
    ∃ rest, address = text ++ rest := by
  obtain ⟨cs, hcs⟩ := List.isPrefixOf_iff_prefix.mp h
  refine ⟨String.ofList cs, ?_⟩
  rw [← String.ofList_toList (s := address), ← hcs, String.ofList_append, String.ofList_toList]

theorem exists_scheme (haddress : hasScheme address = true) :
    ∃ scheme rest, (scheme = "http:" ∨ scheme = "https:") ∧ address = scheme ++ "//" ++ rest := by
  rcases Bool.or_eq_true_iff.mp haddress with h | h
  · obtain ⟨rest, rfl⟩ := exists_eq_append h
    exact ⟨"http:", rest, .inl rfl, rfl⟩
  · obtain ⟨rest, rfl⟩ := exists_eq_append h
    exact ⟨"https:", rest, .inr rfl, rfl⟩

theorem hasScheme_append (haddress : hasScheme address = true) (more : String) :
    hasScheme (address ++ more) = true := by
  have hkeeps {text : String} (h : text.toList.isPrefixOf address.toList = true) :
      text.toList.isPrefixOf (address ++ more).toList = true := by
    rw [String.toList_append]
    exact List.isPrefixOf_iff_prefix.mpr
      ((List.isPrefixOf_iff_prefix.mp h).trans (List.prefix_append _ _))
  rcases Bool.or_eq_true_iff.mp haddress with h | h
  · exact Bool.or_eq_true_iff.mpr (.inl (hkeeps h))
  · exact Bool.or_eq_true_iff.mpr (.inr (hkeeps h))

theorem targetOf_of_scheme (hscheme : scheme = "http:" ∨ scheme = "https:") :
    targetOf (scheme ++ "//" ++ rest) =
      if rest.toList.all (· == '/') then scheme ++ "/link/echo"
      else scheme ++ "//" ++ targetOf rest := by
  split
  · next hslashes =>
    rw [String.append_assoc]
    apply targetOf_append_of_slashes
    · rcases hscheme with rfl | rfl <;> decide
    · intro c hc
      rw [String.toList_append] at hc
      rcases List.mem_append.mp hc with hc | hc
      · simpa using hc
      · exact eq_of_beq (List.all_eq_true.mp hslashes c hc)
  · next hother =>
    apply targetOf_append
    simpa using hother

/-- Just where something other than slashes follows it, the scheme stays in front. -/
theorem scheme_stays_iff (hscheme : scheme = "http:" ∨ scheme = "https:") :
    (scheme ++ "//").toList <+: (targetOf (scheme ++ "//" ++ rest)).toList ↔
      ∃ c ∈ rest.toList, c ≠ '/' := by
  rw [targetOf_of_scheme hscheme]
  split
  · next hslashes =>
    rw [String.toList_append, String.toList_append, List.prefix_append_right_inj]
    constructor
    · intro hfront
      exact absurd hfront (by decide)
    · rintro ⟨c, hc, hne⟩
      exact absurd (eq_of_beq (List.all_eq_true.mp hslashes c hc)) hne
  · next hother =>
    rw [String.toList_append (s := scheme ++ "//") (t := targetOf rest)]
    refine iff_of_true (List.prefix_append _ _) ?_
    simpa using hother

theorem Sound.withAddress (hsound : settings.Sound) (haddress : hasScheme address = true) :
    ({ settings with linkAddress := address } : Settings).Sound :=
  { hsound with scheme := haddress }

/-- All calls under settings that were accepted go to the link address without the slashes at its
end, followed by the echo path, however many slashes there are.  The scheme of the address stays in
front just if the address is more than a scheme and slashes; otherwise its slashes are lost. -/
theorem accepted_address_becomes_target (lookup : String → Option String) (settings : Settings)
    (attemptId : Nat → AttemptId) (clockRange : ClockRange)
    (hsettings : ofLookup lookup = .ok settings) :
    ∃ terms, Terms.ofSettings settings attemptId clockRange = .ok terms ∧
      (∀ count, Terms.ofSettings
        { settings with linkAddress := settings.linkAddress ++ slashes count } attemptId
          clockRange = .ok terms) ∧
      (∃ base count, settings.linkAddress = base ++ slashes count ∧
        base.toList.getLast? ≠ some '/' ∧ terms.target = base ++ "/link/echo") ∧
      (∃ scheme rest, (scheme = "http:" ∨ scheme = "https:") ∧
        settings.linkAddress = scheme ++ "//" ++ rest ∧
        ((scheme ++ "//").toList <+: terms.target.toList ↔ ∃ c ∈ rest.toList, c ≠ '/') ∧
        ((∀ c ∈ rest.toList, c = '/') → terms.target = scheme ++ "/link/echo")) ∧
      (∀ (σ : Type) (link : Link σ) (payload : Bytes) (token : Token) (s : σ) (count : Nat),
        ((Solo.startWith terms payload token s).after terms link count).run.Aims terms.target) ∧
      ∀ (σ : Type) (setup : Pool.Setup σ) (n : Nat) (s : σ) (actions : List Pool.Action)
        (pool : Pool σ), setup.terms = terms →
        Pool.perform setup actions (Pool.start n s) = some pool →
        ∀ worker ∈ pool.workers, worker.Aims terms.target := by
  have hsound := sound_of_ofLookup hsettings
  refine ⟨settings.terms attemptId clockRange, hsound.ofSettings_eq attemptId clockRange,
    ?_, ?_, ?_, ?_, ?_⟩
  · intro count
    have haddress := hasScheme_append hsound.scheme (slashes count)
    rw [(hsound.withAddress haddress).ofSettings_eq attemptId clockRange, terms, terms,
      targetOf_append_slashes]
  · exact exists_base settings.linkAddress
  · obtain ⟨scheme, rest, hscheme, haddress⟩ := exists_scheme hsound.scheme
    refine ⟨scheme, rest, hscheme, haddress, ?_, ?_⟩
    · rw [terms, haddress]
      exact scheme_stays_iff hscheme
    · intro hslashes
      rw [terms, haddress, targetOf_of_scheme hscheme, if_pos]
      simpa using hslashes
  · intro σ link payload token s count
    exact Solo.kept_after (Run.kept_aims _ link) payload 0 0 token s count
  · intro σ setup n s actions pool hterms hperform
    rw [← hterms]
    exact Pool.aims_of_perform hperform

theorem sound_standard : standard.Sound :=
  ⟨by decide, by decide, by decide, by decide, by decide, by decide⟩

/-- The environment that sets only the link address. -/
def addressed (address : String) : String → Option String := fun key ↦
  if key = "FISO_LINK_ADDR" then some address else none

theorem ofLookup_addressed (haddress : hasScheme address = true)
    (hblank : (Text.trim address.toList).isEmpty = false) :
    ofLookup (addressed address) = .ok { standard with linkAddress := address } := by
  have hset : present (addressed address) "FISO_LINK_ADDR" = some address := by
    rw [present, addressed, if_pos rfl, Option.filter_some, hblank]
    rfl
  have hunset {key : String} (hkey : key ≠ "FISO_LINK_ADDR") :
      present (addressed address) key = none := by
    rw [present, addressed, if_neg hkey, Option.filter_none]
  have hnumber {key : String} (limit default : Nat) (hkey : key ≠ "FISO_LINK_ADDR") :
      numberAt (addressed address) key limit default = .ok default := by
    rw [numberAt, hunset hkey]
  have htimeout : Span.ofSeconds standard.timeout.seconds = standard.timeout := by decide
  unfold ofLookup
  rw [hset, hunset (by decide), hunset (by decide), hunset (by decide), hnumber _ _ (by decide),
    hnumber _ _ (by decide), hnumber _ _ (by decide)]
  dsimp only [bind, Except.bind, Option.getD]
  rw [htimeout]
  exact (sound_standard.withAddress haddress).accepted

theorem target_of_ofSettings {attemptId : Nat → AttemptId} {clockRange : ClockRange} {terms : Terms}
    (hterms : Terms.ofSettings settings attemptId clockRange = .ok terms) :
    terms.target = targetOf settings.linkAddress := by
  unfold Terms.ofSettings at hterms
  split at hterms
  · rw [(Terms.eq_of_ofPolicy hterms).1]
  · contradiction

theorem accepted_address_becomes_target_https : ∃ settings terms,
    ofLookup (addressed "https://fiso-link:3500//") = .ok settings ∧
      Terms.ofSettings settings (fun k ↦ ⟨Ulid.ofNat k⟩) .usual = .ok terms ∧
      Terms.ofSettings
        { settings with linkAddress := settings.linkAddress ++ slashes 3 }
        (fun k ↦ ⟨Ulid.ofNat k⟩) .usual = .ok terms ∧
      terms.target = "https://fiso-link:3500/link/echo" ∧
      "https://".toList <+: terms.target.toList ∧
      ∀ (σ : Type) (link : Link σ) (payload : Bytes) (token : Token) (s : σ) (count : Nat),
        ((Solo.startWith terms payload token s).after terms link count).run.Aims terms.target := by
  have haddress : hasScheme "https://fiso-link:3500//" = true := by decide +kernel
  have hsettings := ofLookup_addressed haddress (by decide +kernel)
  obtain ⟨terms, hterms, hmore, _, _, hcalls, _⟩ :=
    accepted_address_becomes_target _ _ (fun k ↦ ⟨Ulid.ofNat k⟩) .usual hsettings
  have htarget : terms.target = "https://fiso-link:3500/link/echo" := by
    rw [target_of_ofSettings hterms]
    decide +kernel
  refine ⟨_, terms, hsettings, hterms, hmore 3, htarget, ?_, hcalls⟩
  rw [htarget]
  decide +kernel

/-- A scheme and nothing else is accepted, and what the path begins with becomes the host. -/
theorem accepted_address_loses_scheme : ∃ settings terms,
    ofLookup (addressed "http://") = .ok settings ∧
      Terms.ofSettings settings (fun k ↦ ⟨Ulid.ofNat k⟩) .usual = .ok terms ∧
      terms.target = "http:/link/echo" ∧ ¬ "http://".toList <+: terms.target.toList ∧
      ¬ "https://".toList <+: terms.target.toList ∧
      Url.read terms.target.toList = Url.read "http://link/echo".toList := by
  have haddress : hasScheme "http://" = true := by decide +kernel
  have hsettings := ofLookup_addressed haddress (by decide +kernel)
  have hterms := (sound_of_ofLookup hsettings).ofSettings_eq (fun k ↦ ⟨Ulid.ofNat k⟩) .usual
  have htarget : targetOf "http://" = "http:/link/echo" := by decide +kernel
  refine ⟨_, _, hsettings, hterms, htarget, ?_, ?_, ?_⟩
  · rw [target_of_ofSettings hterms, htarget]
    decide +kernel
  · rw [target_of_ofSettings hterms, htarget]
    decide +kernel
  · rw [target_of_ofSettings hterms, htarget]
    exact Url.read_echo

end Settings

end Courier
