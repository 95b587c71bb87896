/-
An identity that is assembled is read again from its parts.

The scheme, the path and the query are then as they were, but for a path of
slashes alone (`normalForm_assembled_iff`). The port may be the default one
of the scheme that was rewritten (`reread_plain`), and a host that was in
brackets is cut at its first colon (`reread_colon`).
-/
import DeepResearch.Source.Proofs.Settled

namespace DeepResearch.Source

open CaseFolding (casefold)
open DeepResearch.Run (isSpace strip)
open UrlSplit (SplitResult WellFormed urlsplit urlunsplit partition readPort)

variable {final : UrlText → UrlText → Bool} {parsed parts : SplitResult}
  {url out text netloc scheme host name rest : UrlText} {port : Option Nat}

-- ============================================= the host and the port again

/-- The port is dropped, or written behind the host. -/
theorem identityNetloc_cases (scheme host : UrlText) (port : Option Nat) :
    PortDropped scheme port ∧ identityNetloc scheme host port = host
      ∨ ∃ n, port = some n ∧ isDefaultPort scheme n = false
        ∧ identityNetloc scheme host port
          = host ++ ':' :: Nat.toDigits 10 n := by
  cases port with
  | none => exact .inl ⟨nofun, rfl⟩
  | some n =>
      cases hdefault : isDefaultPort scheme n with
      | true =>
          refine .inl ⟨fun m hm => ?_, if_pos hdefault⟩
          rw [← Option.some.inj hm]
          exact hdefault
      | false =>
          refine .inr ⟨n, rfl, hdefault, if_neg ?_⟩
          rw [hdefault]
          exact Bool.false_ne_true

theorem not_portDropped {n : Nat} (h : isDefaultPort scheme n = false) :
    ¬ PortDropped scheme (some n) := by
  intro hdropped
  rw [hdropped n rfl] at h
  cases h

/-- An identity's `netloc` is cut at its first colon. -/
theorem hostinfo_identityNetloc
    (hplain : Unbracketed (identityHost final netloc)) :
    UrlSplit.hostinfo
        (identityNetloc scheme (identityHost final netloc) port)
      = ((partition ':'
          (identityNetloc scheme (identityHost final netloc) port)).1,
        (partition ':' (identityNetloc scheme
          (identityHost final netloc) port)).2.getD []) := by
  refine UrlSplit.hostinfo_plain ?_ ?_
  · refine not_mem_identityNetloc (by decide) (by decide) (by decide)
      fun hmem => ?_
    exact ((UrlSplit.hostinfo_host netloc).1 _ hmem).2 rfl
  · rw [mem_identityNetloc_iff (by decide) (by decide)]
    exact hplain.1

/-- Part of a host is read as it stands. -/
theorem identityHost_of_hostinfo {again : UrlText}
    (hname : ∀ c ∈ name, c ∈ identityHost final netloc)
    (h : (UrlSplit.hostinfo again).1 = name) :
    identityHost final again = name.rdropWhile (· = '.') := by
  have hfold : casefold name = name := by
    refine CaseFolding.casefold_eq_self fun c hc => ?_
    exact CaseFolding.foldChar_of_casefold_eq
      (casefold_identityHost final netloc) (hname c hc)
  rw [identityHost_eq, h, hfold]

/-- Both schemes of the web become `https`. -/
theorem identityScheme_eq_https_iff :
    identityScheme scheme = "https".toList
      ↔ scheme = "http".toList ∨ scheme = "https".toList := by
  unfold identityScheme
  split
  case isTrue h => exact ⟨fun _ => h, fun _ => rfl⟩
  case isFalse h => exact ⟨fun heq => .inr heq, fun hweb => absurd hweb h⟩

/-- No identity is of the scheme `http`. -/
theorem isDefaultPort_identityScheme {n : Nat} :
    isDefaultPort (identityScheme scheme) n = true
      ↔ identityScheme scheme = "https".toList ∧ n = 443 := by
  have hhttp := (identityScheme_identityScheme scheme).2
  unfold isDefaultPort
  simp only [hhttp, decide_false, Bool.false_and, Bool.or_false,
    Bool.and_eq_true, decide_eq_true_eq]

/-- A port that is written becomes a default one only where the scheme is
rewritten. -/
theorem isDefaultPort_rewritten {n : Nat}
    (h : isDefaultPort scheme n = false) :
    isDefaultPort (identityScheme scheme) n = true
      ↔ scheme = "http".toList ∧ n = 443 := by
  rw [isDefaultPort_identityScheme, identityScheme_eq_https_iff]
  refine ⟨?_, fun ⟨hhttp, hn⟩ => ⟨.inl hhttp, hn⟩⟩
  rintro ⟨hhttp | rfl, rfl⟩
  · exact ⟨hhttp, rfl⟩
  · revert h
    decide

/-- A host without a colon is read again with the port that is written. -/
theorem reread_plain (hport : UrlSplit.port netloc = some port)
    (hplain : Unbracketed (identityHost final netloc))
    (hcolon : ':' ∉ identityHost final netloc) :
    identityHost final
        (identityNetloc scheme (identityHost final netloc) port)
      = identityHost final netloc
    ∧ ∃ again, UrlSplit.port
        (identityNetloc scheme (identityHost final netloc) port)
        = some again
      ∧ (identityNetloc (identityScheme scheme) (identityHost final netloc)
          again = identityNetloc scheme (identityHost final netloc) port
        ↔ ¬ (scheme = "http".toList ∧ port = some 443)) := by
  have hinfo := @hostinfo_identityNetloc final netloc scheme port hplain
  have hself := rdropWhile_identityHost final netloc
  rcases identityNetloc_cases scheme (identityHost final netloc) port with
    -- A port that is dropped stays dropped. One that is written is read
    -- again, and only https may make a default of it.
    ⟨hdropped, hnetloc⟩ | ⟨n, rfl, hdefault, hnetloc⟩
  · rw [hnetloc] at hinfo ⊢
    rw [UrlSplit.partition_of_not_mem hcolon] at hinfo
    refine ⟨?_, none, ?_, ?_⟩
    · rw [identityHost_of_hostinfo (fun c hc => hc)
        (congrArg Prod.fst hinfo), hself]
    · unfold UrlSplit.port
      rw [hinfo]
      rfl
    · refine ⟨fun _ => ?_, fun _ => rfl⟩
      rintro ⟨rfl, rfl⟩
      have hdefault := hdropped 443 rfl
      revert hdefault
      decide
  · rw [hnetloc] at hinfo ⊢
    rw [UrlSplit.partition_append hcolon] at hinfo
    have hn : n ≤ 65535 := by
      unfold UrlSplit.port at hport
      split at hport
      case isTrue => cases hport
      case isFalse =>
        obtain ⟨m, hm, hread⟩ := Option.map_eq_some_iff.mp hport
        cases hread
        exact (UrlSplit.readPort_some hm).2.2
    refine ⟨?_, some n, ?_, ?_⟩
    · rw [identityHost_of_hostinfo (fun c hc => hc)
        (congrArg Prod.fst hinfo), hself]
    · unfold UrlSplit.port
      rw [hinfo]
      show (if Nat.toDigits 10 n = [] then some none
        else (readPort (Nat.toDigits 10 n)).map some) = some (some n)
      rw [if_neg Nat.toDigits_ne_nil, UrlSplit.readPort_toDigits hn]
      rfl
    · rw [Option.some.injEq, ← isDefaultPort_rewritten hdefault]
      show (if isDefaultPort (identityScheme scheme) n = true then _
        else _) = _ ↔ _
      split
      case isTrue hagain =>
        refine ⟨fun h => ?_, fun h => absurd hagain h⟩
        have hlength := congrArg List.length h
        rw [List.length_append, List.length_cons] at hlength
        omega
      case isFalse hagain => exact ⟨fun _ => hagain, fun _ => rfl⟩

/-- A host with a colon is cut there when it is read again, and the port
that is written is not one with what is before it. -/
theorem reread_colon (hplain : Unbracketed (identityHost final netloc))
    (hcut : partition ':' (identityHost final netloc) = (name, some rest)) :
    identityHost final
        (identityNetloc scheme (identityHost final netloc) port)
      = name.rdropWhile (· = '.')
    ∧ ((PortDropped scheme port
        ∧ identityNetloc scheme (identityHost final netloc) port
          = name ++ ':' :: rest
        ∧ UrlSplit.port
            (identityNetloc scheme (identityHost final netloc) port)
          = if rest = [] then some none else (readPort rest).map some)
      ∨ ¬ PortDropped scheme port
        ∧ UrlSplit.port
            (identityNetloc scheme (identityHost final netloc) port)
          = none) := by
  obtain ⟨hhost, hname⟩ := UrlSplit.partition_eq_some hcut
  have hinfo := @hostinfo_identityNetloc final netloc scheme port hplain
  have hmem : ∀ c ∈ name, c ∈ identityHost final netloc := by
    intro c hc
    rw [hhost]
    exact List.mem_append_left _ hc
  rcases identityNetloc_cases scheme (identityHost final netloc) port with
    ⟨hdropped, hnetloc⟩ | ⟨n, rfl, hdefault, hnetloc⟩
  · rw [hnetloc] at hinfo ⊢
    rw [hcut] at hinfo
    refine ⟨identityHost_of_hostinfo hmem (congrArg Prod.fst hinfo),
      .inl ⟨hdropped, hhost, ?_⟩⟩
    unfold UrlSplit.port
    rw [hinfo]
    rfl
  · have hagain : identityHost final netloc ++ ':' :: Nat.toDigits 10 n
        = name ++ ':' :: (rest ++ ':' :: Nat.toDigits 10 n) := by
      rw [hhost, List.append_assoc, List.cons_append]
    rw [hnetloc, hagain] at hinfo ⊢
    rw [UrlSplit.partition_append hname] at hinfo
    refine ⟨identityHost_of_hostinfo hmem (congrArg Prod.fst hinfo),
      .inr ⟨not_portDropped hdefault, ?_⟩⟩
    have hcolon : ':' ∈ rest ++ ':' :: Nat.toDigits 10 n :=
      List.mem_append_right _ List.mem_cons_self
    have hread : readPort (rest ++ ':' :: Nat.toDigits 10 n) = none := by
      cases hport : readPort (rest ++ ':' :: Nat.toDigits 10 n) with
      | none => rfl
      | some m =>
          have hdigit := List.all_eq_true.mp
            (UrlSplit.readPort_some hport).1 _ hcolon
          cases hdigit
    unfold UrlSplit.port
    rw [hinfo]
    show (if rest ++ ':' :: Nat.toDigits 10 n = [] then some none
      else (readPort (rest ++ ':' :: Nat.toDigits 10 n)).map some) = none
    rw [if_neg (List.ne_nil_of_mem hcolon), hread]
    rfl

/-- A host with a colon is read again as a host and a port. -/
theorem hasIdentity_reread_iff
    (hplain : Unbracketed (identityHost final netloc))
    (hcut : partition ':' (identityHost final netloc) = (name, some rest)) :
    HasIdentity final
        (identityNetloc scheme (identityHost final netloc) port)
      ↔ ReadAgain scheme name rest port := by
  obtain ⟨hhost, hport⟩ := @reread_colon final netloc scheme name rest port
    hplain hcut
  unfold HasIdentity ReadAgain
  rw [hhost]
  refine and_congr_right fun _ => ?_
  rcases hport with ⟨hdropped, -, hport⟩ | ⟨hkept, hport⟩
  · rw [hport]
    by_cases hnil : rest = []
    · rw [if_pos hnil]
      exact ⟨fun _ => ⟨hdropped, .inl hnil⟩, fun _ => ⟨none, rfl⟩⟩
    · rw [if_neg hnil]
      refine ⟨?_, ?_⟩
      · rintro ⟨again, hagain⟩
        obtain ⟨n, hn, -⟩ := Option.map_eq_some_iff.mp hagain
        exact ⟨hdropped, .inr ⟨n, hn⟩⟩
      · rintro ⟨-, hread⟩
        obtain ⟨n, hn⟩ := hread.resolve_left hnil
        exact ⟨some n, by rw [hn]; rfl⟩
  · rw [hport]
    exact ⟨nofun, fun h => absurd h.1 hkept⟩

/-- A text is divided by its first colon in one way. -/
theorem append_colon_inj {left left' right right' : UrlText}
    (hleft : ':' ∉ left) (hleft' : ':' ∉ left')
    (h : left ++ ':' :: right = left' ++ ':' :: right') :
    left = left' ∧ right = right' := by
  have hcut := UrlSplit.partition_append hleft right
  rw [h, UrlSplit.partition_append hleft' right'] at hcut
  exact ⟨(congrArg Prod.fst hcut).symm,
    (Option.some.inj (congrArg Prod.snd hcut)).symm⟩

/-- The host and the port that come out of the brackets are written as they
stand there just when an identity writes them so. -/
theorem identityNetloc_reread_iff {again : Option Nat}
    (hplain : Unbracketed (identityHost final netloc))
    (hcut : partition ':' (identityHost final netloc) = (name, some rest))
    (hport : UrlSplit.port
      (identityNetloc scheme (identityHost final netloc) port)
      = some again) :
    identityNetloc (identityScheme scheme) (name.rdropWhile (· = '.')) again
        = identityNetloc scheme (identityHost final netloc) port
      ↔ name.rdropWhile (· = '.') = name
        ∧ ∃ n, readPort rest = some n ∧ Nat.toDigits 10 n = rest
          ∧ ¬ (identityScheme scheme = "https".toList ∧ n = 443) := by
  have hname := (UrlSplit.partition_eq_some hcut).2
  have hdots : name.rdropWhile (· = '.') <+: name :=
    List.rdropWhile_prefix _ name
  -- A host that lost its last dots is too short to be written as it was.
  have hshort : name.rdropWhile (· = '.') ≠ name ++ ':' :: rest := by
    intro h
    have hlength := hdots.length_le
    rw [h, List.length_append, List.length_cons] at hlength
    omega
  obtain ⟨-, ⟨-, hnetloc, hread⟩ | ⟨-, hnone⟩⟩ :=
    @reread_colon final netloc scheme name rest port hplain hcut
  · rw [hport] at hread
    rw [hnetloc]
    by_cases hnil : rest = []
    · rw [if_pos hnil] at hread
      cases hread
      refine ⟨fun h => absurd h hshort, ?_⟩
      rintro ⟨-, n, hn, -⟩
      rw [hnil] at hn
      cases hn
    · rw [if_neg hnil] at hread
      obtain ⟨n, hn, hagain⟩ := Option.map_eq_some_iff.mp hread.symm
      subst hagain
      -- The second pass drops port 443 of https, and writes every other
      -- one.
      have hiff := @isDefaultPort_identityScheme scheme n
      show (if isDefaultPort (identityScheme scheme) n = true then _
        else _) = _ ↔ _
      split
      case isTrue hdefault =>
        refine ⟨fun h => absurd h hshort, ?_⟩
        rintro ⟨-, m, hm, -, hnot⟩
        rw [hn] at hm
        cases hm
        exact absurd (hiff.mp hdefault) hnot
      case isFalse hdefault =>
        refine ⟨fun h => ?_, ?_⟩
        · obtain ⟨hleft, hright⟩ := append_colon_inj
            (fun hmem => hname (hdots.sublist.mem hmem)) hname h
          exact ⟨hleft, n, hn, hright, fun h => hdefault (hiff.mpr h)⟩
        · rintro ⟨hleft, m, hm, hright, -⟩
          rw [hn] at hm
          cases hm
          rw [hleft, hright]
  · rw [hnone] at hport
    cases hport

-- ================================================== an assembled identity

/-- The parts of an identity, from well formed ones. -/
theorem identityParts_eq (h : WellFormed parsed) (host : UrlText)
    (port : Option Nat) :
    identityParts parsed host port
      = ⟨identityScheme parsed.scheme, identityNetloc parsed.scheme host port,
        identityPath parsed.path, identityQuery parsed.query, []⟩ := by
  unfold identityParts
  simp only [casefold_scheme h]

/-- Of an identity's parts, the host with its port and the path decide
whether it is in normal form. -/
theorem normalForm_assembled_iff {again : Option Nat}
    (h : WellFormed parsed) :
    NormalForm final (urlunsplit (identityParts parsed host port))
        (identityParts parsed host port) again
      ↔ identityNetloc (identityScheme parsed.scheme)
            (identityHost final (identityNetloc parsed.scheme host port)) again
          = identityNetloc parsed.scheme host port
        ∧ identityPath parsed.path ≠ [] := by
  have hscheme := (identityScheme_identityScheme parsed.scheme).2
  rw [identityParts_eq h]
  refine ⟨fun hnormal => ⟨hnormal.netloc, ?_⟩, fun ⟨hnetloc, hpath⟩ => ?_⟩
  · exact (identityPath_identityPath _).mp
      (identityPath_eq_self_iff.mpr hnormal.path)
  · exact ⟨rfl, hscheme, hnetloc,
      identityPath_eq_self_iff.mp ((identityPath_identityPath _).mpr hpath),
      identityQuery_eq_self_iff.mp (identityQuery_identityQuery _), rfl⟩

/-- The network location of an identity is folded already. -/
theorem foldChar_identityNetloc {c : Char}
    (h : c ∈ identityNetloc scheme (identityHost final netloc) port) :
    CaseFolding.foldChar c = [c] := by
  rcases mem_identityNetloc h with h | rfl | h
  · exact CaseFolding.foldChar_of_casefold_eq
      (casefold_identityHost final netloc) h
  · exact CaseFolding.foldChar_of_caseless (by decide)
  · exact CaseFolding.foldChar_of_caseless (IpAddress.isDigit_caseless h)

/-- So is its scheme. -/
theorem foldChar_schemePrefix {c : Char} (h : WellFormed parts)
    (hc : c ∈ UrlSplit.schemePrefix parts.scheme) :
    CaseFolding.foldChar c = [c] := by
  unfold UrlSplit.schemePrefix at hc
  split at hc
  · cases hc
  · rcases List.mem_append.mp hc with hc | hc
    · exact CaseFolding.foldChar_of_casefold_eq (casefold_scheme h) hc
    · rw [List.mem_singleton.mp hc]
      exact CaseFolding.foldChar_of_caseless (by decide)

/-- Folding an identity folds its path and its query. -/
theorem casefold_assembled_iff (h : WellFormed parsed)
    (hhost : identityHost final parsed.netloc ≠ []) (port : Option Nat) :
    casefold (urlunsplit (identityParts parsed
          (identityHost final parsed.netloc) port))
        = urlunsplit (identityParts parsed
          (identityHost final parsed.netloc) port)
      ↔ casefold (identityPath parsed.path) = identityPath parsed.path
        ∧ casefold (identityQuery parsed.query)
          = identityQuery parsed.query := by
  have hwell := wellFormed_identityParts h hhost port
  have hpre := fun c => foldChar_schemePrefix hwell (c := c)
  have hslash : CaseFolding.foldChar '/' = ['/'] :=
    CaseFolding.foldChar_of_caseless (by decide)
  have hmark : CaseFolding.foldChar '?' = ['?'] :=
    CaseFolding.foldChar_of_caseless (by decide)
  rw [UrlSplit.urlunsplit_eq hwell, CaseFolding.casefold_eq_self_iff,
    CaseFolding.casefold_eq_self_iff, CaseFolding.casefold_eq_self_iff]
  rw [identityParts_eq h] at hpre ⊢
  refine ⟨fun hall => ⟨fun c hc => hall c ?_, fun c hc => hall c ?_⟩,
    fun ⟨hpath, hquery⟩ c hc => ?_⟩
  · simp only [List.mem_append, List.mem_cons]
    exact .inr (.inr (.inr (.inr (.inl (.inl hc)))))
  · have hbehind : c ∈ UrlSplit.behind '?' (identityQuery parsed.query) := by
      unfold UrlSplit.behind
      rw [if_neg (List.ne_nil_of_mem hc)]
      exact List.mem_cons_of_mem _ hc
    simp only [List.mem_append, List.mem_cons]
    exact .inr (.inr (.inr (.inr (.inl (.inr hbehind)))))
  · simp only [List.mem_append, List.mem_cons] at hc
    rcases hc with hc | rfl | rfl | hc | (hc | hc) | hc
    · exact hpre c hc
    · exact hslash
    · exact hslash
    · exact foldChar_identityNetloc hc
    · exact hpath c hc
    · rcases UrlSplit.mem_behind hc with rfl | hc
      · exact hmark
      · exact hquery c hc
    · cases hc

theorem endsInSpace_append (hne : text ≠ []) :
    EndsInSpace (netloc ++ text) ↔ EndsInSpace text := by
  unfold EndsInSpace
  rw [List.getLast?_append_of_ne_nil _ hne]

/-- What is its own identity is stripped, has no bracket, and is in normal
form or folded. -/
theorem assembled_self_iff (h : urlsplit (strip url) = some parsed)
    (hhost : identityHost final parsed.netloc ≠ [])
    (hplain : Unbracketed (identityHost final parsed.netloc))
    (port : Option Nat) :
    normalizeSourceUrl final (urlunsplit (identityParts parsed
          (identityHost final parsed.netloc) port))
        = some (urlunsplit (identityParts parsed
          (identityHost final parsed.netloc) port))
      ↔ (queryPairs parsed.query = [] → ¬ EndsInSpace
          (identityNetloc parsed.scheme (identityHost final parsed.netloc) port
            ++ identityPath parsed.path))
        ∧ (∀ again, identityHost final (identityNetloc parsed.scheme
              (identityHost final parsed.netloc) port) ≠ [] →
            UrlSplit.port (identityNetloc parsed.scheme
              (identityHost final parsed.netloc) port) = some again →
            identityNetloc (identityScheme parsed.scheme)
                (identityHost final (identityNetloc parsed.scheme
                  (identityHost final parsed.netloc) port)) again
              = identityNetloc parsed.scheme
                (identityHost final parsed.netloc) port
            ∧ identityPath parsed.path ≠ [])
        ∧ (¬ HasIdentity final (identityNetloc parsed.scheme
              (identityHost final parsed.netloc) port) →
            casefold (identityPath parsed.path) = identityPath parsed.path
            ∧ casefold (identityQuery parsed.query)
              = identityQuery parsed.query) := by
  have hparsed := UrlSplit.wellFormed_of_urlsplit h (netloc_ne_nil hhost)
  have hwell := wellFormed_identityParts hparsed hhost port
  -- What is assembled is split into the same parts again.
  have hsplit := (urlsplit_identity h hhost port).1 hplain
  -- And stripped without a loss, unless it ends in white space.
  have hstrip := strip_urlunsplit_iff hwell rfl
    fun c hc => (mem_identityQuery hc).2.2
  have hnetloc : (identityParts parsed (identityHost final parsed.netloc)
      port).netloc = identityNetloc parsed.scheme
        (identityHost final parsed.netloc) port := by
    rw [identityParts_eq hparsed]
  have hends : ((identityParts parsed (identityHost final parsed.netloc)
      port).query = [] → ¬ EndsInSpace ((identityParts parsed
        (identityHost final parsed.netloc) port).netloc
        ++ (identityParts parsed (identityHost final parsed.netloc)
          port).path))
      ↔ (queryPairs parsed.query = [] → ¬ EndsInSpace
          (identityNetloc parsed.scheme (identityHost final parsed.netloc) port
            ++ identityPath parsed.path)) := by
    rw [identityParts_eq hparsed]
    show (identityQuery parsed.query = [] → _) ↔ _
    rw [identityQuery_eq_nil_iff]
  rw [hends] at hstrip
  -- With a host that is read again the second pass normalises, without one
  -- it folds.
  refine ⟨fun hself => ?_, fun ⟨hlast, hnormal, hfold⟩ => ?_⟩
  · have hstripped := strip_eq_of_identity hself
    refine ⟨hstrip.mp hstripped, fun again hagain hport => ?_, fun hno => ?_⟩
    · rw [← hnetloc] at hagain hport
      exact (normalForm_assembled_iff hparsed).mp
        ((identity_iff_normalForm hstripped hsplit hagain hport).mp hself)
    · rw [← hnetloc] at hno
      exact (casefold_assembled_iff hparsed hhost port).mp
        ((identity_iff_folded hstripped hsplit hno).mp hself)
  · have hstripped := hstrip.mpr hlast
    by_cases hidentity : HasIdentity final (identityNetloc parsed.scheme
        (identityHost final parsed.netloc) port)
    · obtain ⟨hagain, again, hport⟩ := hidentity
      have hform := (normalForm_assembled_iff hparsed).mpr
        (hnormal again hagain hport)
      rw [← hnetloc] at hagain hport
      exact (identity_iff_normalForm hstripped hsplit hagain hport).mpr hform
    · have hfolded := (casefold_assembled_iff hparsed hhost port).mpr
        (hfold hidentity)
      rw [← hnetloc] at hidentity
      exact (identity_iff_folded hstripped hsplit hidentity).mpr hfolded

/-- Where a path is left, it has the last character. -/
theorem endsInSpace_identityPath {path : UrlText} :
    EndsInSpace (identityPath path)
      ↔ EndsInSpace (path.rdropWhile (· = '/')) := by
  rcases identityPath_eq path with ⟨hpath, hshort⟩ | hpath
  · have hslash : ¬ EndsInSpace ['/'] := by
      rintro ⟨c, hc, hspace⟩
      cases hc
      cases hspace
    have hcut : path.rdropWhile (· = '/') = [] := by
      rcases hshort with rfl | rfl <;> rfl
    have hnil : ¬ EndsInSpace [] := by
      rintro ⟨c, hc, -⟩
      cases hc
    rw [hpath, hcut]
    exact iff_of_false hslash hnil
  · rw [hpath]

/-- A path is settled where stripping and cutting leave it. -/
theorem pathSettled_iff :
    PathSettled parsed
      ↔ (queryPairs parsed.query = [] → ¬ EndsInSpace
          (netloc ++ identityPath parsed.path))
        ∧ identityPath parsed.path ≠ [] := by
  unfold PathSettled
  rw [← identityPath_ne_nil_iff, ← endsInSpace_identityPath, and_comm]
  refine and_congr_left fun hne => ?_
  rw [endsInSpace_append hne]

theorem isSpace_of_isDigit {c : Char} (h : c.isDigit = true) :
    isSpace c = false := by
  have hlow : 48 ≤ c.toNat ∧ c.toNat ≤ 57 := by
    unfold Char.isDigit at h
    simp only [Bool.and_eq_true, decide_eq_true_eq] at h
    exact h
  exact @CaseFolding.ascii_forall
    (fun c => 48 ≤ c.toNat ∧ c.toNat ≤ 57 → isSpace c = false)
    (by decide) c (by omega) hlow

/-- Where no path is left, the port or the host has the last character. -/
theorem endsInSpace_assembled_iff {path : UrlText} :
    ¬ EndsInSpace (identityNetloc scheme host port ++ identityPath path)
      ↔ ¬ EndsInSpace (path.rdropWhile (· = '/'))
        ∧ (PathLost path → PortDropped scheme port → ¬ EndsInSpace host) := by
  rw [← endsInSpace_identityPath]
  by_cases hlost : PathLost path
  · have hpath : identityPath path = [] :=
      not_not.mp fun hne => identityPath_ne_nil_iff.mp hne hlost
    have hnil : ¬ EndsInSpace [] := by
      rintro ⟨c, hc, -⟩
      cases hc
    rw [hpath, List.append_nil]
    rcases identityNetloc_cases scheme host port with
      ⟨hdropped, hnetloc⟩ | ⟨n, rfl, hdefault, hnetloc⟩
    · rw [hnetloc]
      exact ⟨fun hends => ⟨hnil, fun _ _ => hends⟩,
        fun hends => hends.2 hlost hdropped⟩
    · refine iff_of_true ?_ ⟨hnil, fun _ hdropped =>
        absurd hdropped (not_portDropped hdefault)⟩
      rintro ⟨c, hc, hspace⟩
      have htext : host ++ ':' :: Nat.toDigits 10 n
          = host ++ [':'] ++ Nat.toDigits 10 n := by
        rw [List.append_assoc]
        rfl
      rw [hnetloc, htext,
        List.getLast?_append_of_ne_nil _ Nat.toDigits_ne_nil] at hc
      have hdigit := Nat.isDigit_of_mem_toDigits (by decide) (by decide)
        (List.mem_of_getLast? hc)
      rw [isSpace_of_isDigit hdigit] at hspace
      cases hspace
  · have hpath := identityPath_ne_nil_iff.mpr hlost
    rw [endsInSpace_append hpath]
    exact ⟨fun hends => ⟨hends, fun h => absurd h hlost⟩, fun hends => hends.1⟩

/-- Folding and cutting the path do not meet. -/
theorem casefold_identityPath_iff {path : UrlText} :
    casefold (identityPath path) = identityPath path
      ↔ casefold path = path := by
  have hslash : CaseFolding.foldChar '/' = ['/'] :=
    CaseFolding.foldChar_of_caseless (by decide)
  rw [CaseFolding.casefold_eq_self_iff, CaseFolding.casefold_eq_self_iff]
  refine ⟨fun hall c hc => ?_, fun hall c hc => ?_⟩
  · by_cases heq : c = '/'
    · rw [heq, hslash]
    · have hcut := Trim.mem_rdropWhile hc (p := (· = '/')) (decide_eq_false heq)
      rcases identityPath_eq path with ⟨-, rfl | rfl⟩ | hpath
      · cases hc
      · exact absurd (List.mem_singleton.mp hc) heq
      · rw [← hpath] at hcut
        exact hall c hcut
  · rcases mem_identityPath hc with hc | rfl
    · exact hall c hc
    · exact hslash

/-- A query is folded if every pair is written folded. -/
theorem casefold_identityQuery_iff {query : UrlText} :
    casefold (identityQuery query) = identityQuery query
      ↔ ∀ pair ∈ queryPairs query,
        casefold (FormCoding.writePair pair) = FormCoding.writePair pair := by
  simp only [CaseFolding.casefold_eq_self_iff]
  refine ⟨fun hall pair hpair c hc => ?_, fun hall c hc => ?_⟩
  · have hsorted : pair ∈ (queryPairs query).insertionSort pairLe := by
      rw [List.mem_insertionSort]
      exact hpair
    exact hall c (FormCoding.mem_urlencode_of_pair hsorted hc)
  · rcases FormCoding.mem_urlencode hc with ⟨pair, hpair, hc⟩ | rfl
    · rw [List.mem_insertionSort] at hpair
      exact hall pair hpair c hc
    · exact CaseFolding.foldChar_of_caseless (by decide)

theorem foldSettled_iff :
    FoldSettled parsed host port
      ↔ (queryPairs parsed.query = [] → ¬ EndsInSpace
          (identityNetloc parsed.scheme host port
            ++ identityPath parsed.path))
        ∧ casefold (identityPath parsed.path) = identityPath parsed.path
        ∧ casefold (identityQuery parsed.query)
          = identityQuery parsed.query := by
  unfold FoldSettled
  rw [casefold_identityPath_iff, casefold_identityQuery_iff,
    endsInSpace_assembled_iff]
  exact ⟨fun ⟨hpath, hquery, hlast⟩ => ⟨hlast, hpath, hquery⟩,
    fun ⟨hlast, hpath, hquery⟩ => ⟨hpath, hquery, hlast⟩⟩

/-- The second normalisation, part by part. -/
theorem assembled_iff (h : urlsplit (strip url) = some parsed)
    (hhost : identityHost final parsed.netloc ≠ [])
    (hport : UrlSplit.port parsed.netloc = some port) :
    normalizeSourceUrl final (urlunsplit (identityParts parsed
          (identityHost final parsed.netloc) port))
        = some (urlunsplit (identityParts parsed
          (identityHost final parsed.netloc) port))
      ↔ AssembledSettled parsed (identityHost final parsed.netloc) port := by
  by_cases hplain : Unbracketed (identityHost final parsed.netloc)
  case neg =>
    refine ⟨fun hself => ?_, fun hsettled => absurd hsettled.1 hplain⟩
    have hnone := (urlsplit_identity h hhost port).2 hplain
    rw [← strip_eq_of_identity hself] at hnone
    rw [normalizeSourceUrl_none hnone] at hself
    cases hself
  case pos =>
    rw [assembled_self_iff h hhost hplain]
    unfold AssembledSettled
    rcases UrlSplit.partition_cases ':' (identityHost final parsed.netloc)
      with ⟨hcolon, hcut⟩ | ⟨name, rest, -, -, hcut⟩
    · obtain ⟨hagain, again, hread, hnetloc⟩ :=
        @reread_plain final parsed.netloc parsed.scheme port hport hplain
          hcolon
      have hhost' : identityHost final (identityNetloc parsed.scheme
          (identityHost final parsed.netloc) port) ≠ [] := by
        rw [hagain]
        exact hhost
      rw [hcut]
      simp only
      refine ⟨fun ⟨hlast, hnormal, _⟩ => ⟨hplain, ?_⟩,
        fun ⟨_, hweb, hpath⟩ => ?_⟩
      · obtain ⟨heq, hne⟩ := hnormal again hhost' hread
        rw [hagain] at heq
        exact ⟨hnetloc.mp heq, pathSettled_iff.mpr ⟨hlast, hne⟩⟩
      · obtain ⟨hlast, hne⟩ := pathSettled_iff.mp hpath
        refine ⟨hlast, fun again' _ hread' => ?_, fun hno => ?_⟩
        · rw [hread] at hread'
          cases hread'
          rw [hagain]
          exact ⟨hnetloc.mpr hweb, hne⟩
        · exact absurd ⟨hhost', again, hread⟩ hno
    · have hidentity := @hasIdentity_reread_iff final parsed.netloc
        parsed.scheme name rest port hplain hcut
      obtain ⟨hname, -⟩ := @reread_colon final parsed.netloc parsed.scheme
        name rest port hplain hcut
      rw [hcut]
      simp only
      refine ⟨fun ⟨hlast, hnormal, hfold⟩ => ⟨hplain, fun hread => ?_,
        fun hread => ?_⟩, fun ⟨_, hreread, hfolded⟩ => ?_⟩
      · obtain ⟨hhost', again, hport'⟩ := hidentity.mpr hread
        obtain ⟨heq, hne⟩ := hnormal again hhost' hport'
        rw [hname] at heq
        obtain ⟨hdots, hdigits⟩ :=
          (identityNetloc_reread_iff hplain hcut hport').mp heq
        exact ⟨hdots, hdigits, pathSettled_iff.mpr ⟨hlast, hne⟩⟩
      · exact foldSettled_iff.mpr
          ⟨hlast, hfold fun h => hread (hidentity.mp h)⟩
      · by_cases hread : ReadAgain parsed.scheme name rest port
        · obtain ⟨hdots, hdigits, hpath⟩ := hreread hread
          obtain ⟨hlast, hne⟩ := pathSettled_iff.mp hpath
          refine ⟨hlast, fun again _ hport' => ⟨?_, hne⟩, fun hno => ?_⟩
          · rw [hname]
            exact (identityNetloc_reread_iff hplain hcut hport').mpr
              ⟨hdots, hdigits⟩
          · exact absurd (hidentity.mpr hread) hno
        · obtain ⟨hlast, hfold⟩ := foldSettled_iff.mp (hfolded hread)
          refine ⟨hlast, fun again hhost' hport' => ?_, fun _ => hfold⟩
          exact absurd (hidentity.mp ⟨hhost', again, hport'⟩) hread

-- ============================================================== idempotence

/-- The identity of a URL is its own identity just when the URL is
settled. -/
theorem normalizeSourceUrl_self_iff
    (h : normalizeSourceUrl final url = some out) :
    normalizeSourceUrl final out = some out ↔ Settled final url := by
  obtain ⟨parsed, hsplit, hout⟩ := normalizeSourceUrl_cases h
  have hsettled : Settled final url
      ↔ (∀ port, identityHost final parsed.netloc ≠ [] →
          UrlSplit.port parsed.netloc = some port →
          AssembledSettled parsed (identityHost final parsed.netloc) port)
        ∧ (¬ HasIdentity final parsed.netloc →
          FoldedSettled final (strip url)) := by
    unfold Settled
    rw [hsplit]
    simp only [Option.some.injEq, exists_eq_left']
  rw [hsettled]
  rcases hout with ⟨port, hhost, hport, rfl⟩ | ⟨hno, rfl⟩
  · rw [assembled_iff hsplit hhost hport]
    refine ⟨fun hself => ⟨fun port' _ hport' => ?_, fun hno => ?_⟩,
      fun hself => hself.1 port hhost hport⟩
    · rw [hport] at hport'
      cases hport'
      exact hself
    · exact absurd ⟨hhost, port, hport⟩ hno
  · rw [folded_iff hsplit hno]
    refine ⟨fun hfolded => ⟨fun port hhost hport => ?_, fun _ => hfolded⟩,
      fun hself => hself.2 hno⟩
    exact absurd ⟨hhost, port, hport⟩ hno

-- ==================================================== a page that was read

/-- A URL is a candidate where the searches' URLs have identities, and its
own is split. -/
theorem candidateIdentityForUrl_some {resultUrls : List UrlText}
    (h : normalizeSourceUrl final url = some out)
    (hsplit : urlsplit out = some parsed)
    (hresults : ∀ resultUrl ∈ resultUrls,
      ∃ identity, normalizeSourceUrl final resultUrl = some identity) :
    ∃ candidate,
      candidateIdentityForUrl final resultUrls url = some candidate := by
  have hrow : ∃ row, resultWith final out resultUrls = some row := by
    induction resultUrls with
    | nil => exact ⟨none, rfl⟩
    | cons resultUrl rows ih =>
        obtain ⟨identity, hidentity⟩ := hresults resultUrl List.mem_cons_self
        unfold resultWith
        rw [hidentity]
        simp only
        split
        case isTrue =>
          exact ih fun other hother =>
            hresults other (List.mem_cons_of_mem _ hother)
        case isFalse => exact ⟨some resultUrl, rfl⟩
  obtain ⟨row, hrow⟩ := hrow
  unfold candidateIdentityForUrl
  rw [h]
  simp only
  rw [hrow, hsplit]
  exact ⟨_, rfl⟩

/-- A source with one of the identities, of sources that have one, is
found. -/
theorem duplicateOf_isSome {identities : List UrlText}
    {contentHash : UrlText} {knownSources : List SourceRow} {row : SourceRow}
    (hall : ∀ source ∈ knownSources,
      ∃ identity, normalizeSourceUrl final source.canonicalUrl = some identity)
    (hrow : row ∈ knownSources) {identity : UrlText}
    (hidentity : normalizeSourceUrl final row.canonicalUrl = some identity)
    (hmem : identity ∈ identities) :
    ∃ source, duplicateOf final identities contentHash knownSources
      = some (some source) := by
  induction knownSources with
  | nil => cases hrow
  | cons source knownSources ih =>
      obtain ⟨known, hknown⟩ := hall source List.mem_cons_self
      unfold duplicateOf
      rw [hknown]
      simp only
      split
      case isTrue => exact ⟨source, rfl⟩
      case isFalse hnot =>
        rcases List.mem_cons.mp hrow with rfl | hrow
        · rw [hidentity] at hknown
          cases hknown
          exact absurd (.inl hmem) hnot
        · exact ih (fun other hother =>
            hall other (List.mem_cons_of_mem _ hother)) hrow

/-- A page that is stored and processed is known again by its URL, whatever
URL was asked for and whatever its content has become, if its URL is
settled. -/
theorem pageAlreadyProcessed_of_settled {resultUrls : List UrlText}
    {processedSourceIds : List SourceId} {sources : List SourceRow}
    {requestedUrl finalUrl storedHash contentHash : UrlText} {id : SourceId}
    {row : SourceRow} (hsettled : Settled final finalUrl)
    (hstored : sourceRow final id finalUrl storedHash = some row)
    (hrow : row ∈ sources) (hprocessed : id ∈ processedSourceIds)
    (hall : ∀ source ∈ sources,
      ∃ identity, normalizeSourceUrl final source.canonicalUrl = some identity)
    (hrequested : ∃ candidate,
      candidateIdentityForUrl final resultUrls requestedUrl
        = some candidate) :
    pageAlreadyProcessed final resultUrls processedSourceIds sources
      requestedUrl finalUrl contentHash = some true := by
  obtain ⟨stored, hidentity, rfl⟩ := Option.map_eq_some_iff.mp hstored
  obtain ⟨candidate, hcandidate⟩ := hrequested
  have hself := (normalizeSourceUrl_self_iff hidentity).mpr hsettled
  unfold pageAlreadyProcessed
  rw [hcandidate]
  simp only
  rw [if_neg (List.ne_nil_of_mem hprocessed), hidentity]
  cases hrequested : normalizeSourceUrl final requestedUrl with
  | none =>
      unfold candidateIdentityForUrl at hcandidate
      rw [hrequested] at hcandidate
      cases hcandidate
  | some requested =>
      have hknown : ⟨id, stored, storedHash⟩
          ∈ sources.filter (·.id ∈ processedSourceIds) :=
        List.mem_filter.mpr ⟨hrow, decide_eq_true hprocessed⟩
      have hmem : stored ∈ [requested, stored] :=
        List.mem_cons_of_mem _ List.mem_cons_self
      have hfound : ∃ source, duplicateOf final [requested, stored]
          contentHash (sources.filter (·.id ∈ processedSourceIds))
          = some (some source) :=
        duplicateOf_isSome
          (fun source hsource => hall source (List.mem_filter.mp hsource).1)
          hknown hself hmem
      obtain ⟨source, hsource⟩ := hfound
      simp only
      rw [hsource]
      rfl

/-- The only page that is stored is known again, once its content is
another, just when its URL is settled. -/
theorem pageAlreadyProcessed_again_iff {resultUrls : List UrlText}
    {id : SourceId} {storedHash contentHash : UrlText}
    (h : normalizeSourceUrl final url = some out)
    (hresults : ∀ resultUrl ∈ resultUrls,
      ∃ identity, normalizeSourceUrl final resultUrl = some identity)
    (hcontent : storedHash ≠ contentHash) :
    pageAlreadyProcessed final resultUrls [id] [⟨id, out, storedHash⟩] url url
      contentHash = some true ↔ Settled final url := by
  refine ⟨fun hknown => ?_, fun hsettled => ?_⟩
  · rw [← normalizeSourceUrl_self_iff h]
    have hsources : [SourceRow.mk id out storedHash].filter (·.id ∈ [id])
        = [⟨id, out, storedHash⟩] :=
      List.filter_cons_of_pos (decide_eq_true List.mem_cons_self)
    unfold pageAlreadyProcessed at hknown
    rw [if_neg (List.cons_ne_nil _ _), h, hsources] at hknown
    simp only at hknown
    split at hknown
    · cases hknown
    · unfold duplicateOf at hknown
      cases hagain : normalizeSourceUrl final out with
      | none =>
          rw [hagain] at hknown
          cases hknown
      | some identity =>
          rw [hagain] at hknown
          simp only [List.mem_cons, List.not_mem_nil, or_false, or_self,
            hcontent] at hknown
          split at hknown
          case isTrue heq => rw [heq]
          case isFalse => cases hknown
  · have hself := (normalizeSourceUrl_self_iff h).mpr hsettled
    obtain ⟨parsed, hsplit, -⟩ := normalizeSourceUrl_cases hself
    rw [strip_eq_of_identity hself] at hsplit
    refine pageAlreadyProcessed_of_settled hsettled
      (Option.map_eq_some_iff.mpr ⟨out, h, rfl⟩) List.mem_cons_self
      List.mem_cons_self (fun source hsource => ?_)
      (candidateIdentityForUrl_some h hsplit hresults)
    rw [List.mem_singleton.mp hsource]
    exact ⟨out, hself⟩

/-- The identity of a URL is its own identity, and a page that is stored
under it is known by it again, just when the URL is settled. -/
theorem source_identity_stable_iff (final : UrlText → UrlText → Bool)
    (url out : UrlText) (h : normalizeSourceUrl final url = some out) :
    (normalizeSourceUrl final out = some out ↔ Settled final url)
    ∧ ∀ (resultUrls : List UrlText) (id : SourceId)
        (storedHash contentHash : UrlText),
      (∀ resultUrl ∈ resultUrls,
        ∃ identity, normalizeSourceUrl final resultUrl = some identity) →
      storedHash ≠ contentHash →
      (pageAlreadyProcessed final resultUrls [id] [⟨id, out, storedHash⟩]
        url url contentHash = some true ↔ Settled final url) :=
  ⟨normalizeSourceUrl_self_iff h, fun _ _ _ _ hresults hcontent =>
    pageAlreadyProcessed_again_iff h hresults hcontent⟩

theorem source_identity_stable_iff_sample :
    Settled (fun _ _ => false)
      "HTTP://Example.org:80/a/?utm_source=x&c=2&b=1#top".toList :=
  (source_identity_stable_iff (fun _ _ => false)
    "HTTP://Example.org:80/a/?utm_source=x&c=2&b=1#top".toList
    "https://example.org/a?b=1&c=2".toList (by decide +kernel)).1.mp
    (by decide +kernel)

/-- A path of slashes is lost and comes back as one, and the page that is
stored in between is not known again; the default port of the scheme that was
rewritten is written once. -/
theorem source_identity_not_stable :
    normalizeSourceUrl (fun _ _ => false) "https://example.org//".toList
        = some "https://example.org".toList
    ∧ normalizeSourceUrl (fun _ _ => false) "https://example.org".toList
        = some "https://example.org/".toList
    ∧ pageAlreadyProcessed (fun _ _ => false)
        ["https://example.org//".toList] [0]
        [⟨0, "https://example.org".toList, "old".toList⟩]
        "https://example.org//".toList "https://example.org//".toList
        "new".toList = some false
    ∧ normalizeSourceUrl (fun _ _ => false) "http://example.org:443/a".toList
        = some "https://example.org:443/a".toList
    ∧ normalizeSourceUrl (fun _ _ => false) "https://example.org:443/a".toList
        = some "https://example.org/a".toList := by
  decide +kernel

end DeepResearch.Source
