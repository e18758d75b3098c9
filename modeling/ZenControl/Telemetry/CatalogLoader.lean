import ZenControl.Library.Histories
import ZenControl.Telemetry.Attribution
import Mathlib.Data.List.Induction

/-! How the classifier of the ingest process follows the catalogue file that the policy store
publishes, over whole histories of replacements, deletions, failed reads and calls. -/
namespace ZenControl.Telemetry
open Histories

section Loader
variable (py : PyRuntime)

/-- `(st_dev, st_ino, st_size, st_mtime_ns)`. -/
abbrev Fingerprint := ℤ × ℤ × ℤ × ℤ

/-- What `json.loads` makes of a file: a value, an error that the loader catches, with its text,
or the `RecursionError` of a text that nests too deeply, which it does not catch. -/
inductive Parsed
  | value (payload : PyVal)
  | refused (error : String)
  | tooDeep
  deriving Repr

structure CatalogFile where
  fingerprint : Fingerprint
  content : Parsed
  deriving Repr

/-- A compiled catalogue: its suffixes, the number of its services and their definitions. -/
structure Catalogue where
  domains : Compiled
  services : ℕ
  definitions : List Definition
  deriving DecidableEq, Repr

/-- How a read of the file ends. -/
inductive Load
  | live (catalogue : Catalogue)
  | failed (error : String)
  | raised
  deriving DecidableEq, Repr

/-- The number of services that a payload lists. -/
def serviceCount (payload : PyVal) : ℕ :=
  match payload.get "services" with
  | .ok (.list items) => items.length
  | _ => 0

/-- `_load_live` of a file. -/
def loadFile : Parsed → Load
  | .refused error => .failed error
  | .tooDeep => .raised
  | .value payload =>
    match loadLive py payload with
    | .ok (domains,definitions) => .live ⟨domains,serviceCount payload,definitions⟩
    | .error (.valueError message) => .failed ("ValueError: " ++ message)
    | .error _ => .raised

/-- `_FALLBACK`. -/
def fallbackServices : List (String × List String) :=
  [("YouTube",["youtube.com","youtu.be","googlevideo.com","ytimg.com","youtube-nocookie.com"]),
   ("Netflix",["netflix.com","netflix.net","nflxvideo.net","nflximg.net","nflxso.net"]),
   ("Prime Video",["primevideo.com","amazonvideo.com","aiv-cdn.net","aiv-delivery.net"]),
   ("BBC iPlayer",["bbc.co.uk","bbc.com","bbci.co.uk","bbcmedia.co.uk","bbcmedia.net"]),
   ("ChatGPT",["chatgpt.com","oaistatic.com","oaiusercontent.com"]),
   ("OpenAI",["openai.com"]),
   ("TikTok",["tiktok.com","tiktokcdn.com","tiktokv.com","byteoversea.com","muscdn.com",
     "musical.ly"]),
   ("Discord",["discord.com","discord.gg","discordapp.com","discordapp.net"]),
   ("Roblox",["roblox.com","rbxcdn.com"]),
   ("Steam",["steampowered.com","steamcommunity.com","steamcontent.com","steamstatic.com"]),
   ("Xbox",["xboxlive.com","xbox.com","xboxservices.com"]),
   ("PlayStation",["playstation.net","playstation.com","sonyentertainmentnetwork.com"])]

def fallbackEntry (s : String × List String) : PyVal :=
  .dict [("name",.str s.1),("dns_suffixes",.list (s.2.map .str))]

/-- `_fallback_compiled`, as a catalogue. -/
def fallbackCatalogue : Catalogue :=
  let compiled := ((compile py (.list (fallbackServices.map fallbackEntry))).toOption).getD ([],[])
  ⟨compiled.1,fallbackServices.length,compiled.2⟩

/-- Services with a name and their suffixes compile, so there always is a fallback. -/
lemma compile_fallback (services : List (String × List String)) :
    ∃ compiled, compile py (.list (services.map fallbackEntry))=.ok compiled := by
  have hentries : ∃ compiled, compileEntries py (services.map fallbackEntry)=.ok compiled := by
    induction services with
    | nil => exact ⟨_,rfl⟩
    | cons s services ih =>
      obtain ⟨⟨compiled,definitions⟩,hrest⟩ := ih
      obtain ⟨d,hd⟩ : ∃ d, serviceDefinition py (fallbackEntry s)=.ok d := ⟨_,rfl⟩
      obtain ⟨suffixes,hsuffixes⟩ : ∃ suffixes,
          entrySuffixes py (fallbackEntry s)=.ok suffixes := by
        obtain ⟨name,texts⟩ := s
        cases texts <;> exact ⟨_,rfl⟩
      rw [List.map_cons,compileEntries_cons rfl hd hsuffixes hrest]
      split_ifs <;> exact ⟨_,rfl⟩
  obtain ⟨compiled,hcompiled⟩ := hentries
  unfold compile
  simp only [hcompiled]
  exact ⟨_,rfl⟩

inductive CatalogueSource
  | fallback | live | staleLive
  deriving DecidableEq, Repr

/-- `_state`. The recorded fingerprint is at first one that no file has; afterwards it is that
of the file, or none for a file without one. -/
structure LoaderState where
  fingerprint : Option (Option Fingerprint) := none
  catalogue : Option Catalogue := none
  source : CatalogueSource := .fallback
  error : String := ""
  hasLive : Bool := false
  deriving DecidableEq, Repr

/-- The catalogue that is in use while the file has this fingerprint, without another look at
the file. -/
def LoaderState.cached (s : LoaderState) (fingerprint : Option Fingerprint) : Option Catalogue :=
  if s.fingerprint=some fingerprint then s.catalogue else none

/-- The branches of `_load_if_needed` behind an error. -/
def LoaderState.withoutFile (s : LoaderState) (fingerprint : Option Fingerprint)
    (error : String) : Catalogue × LoaderState :=
  match s.hasLive,s.catalogue with
  | true,some known =>
    (known,{ s with fingerprint := some fingerprint, source := .staleLive, error := error })
  | _,_ =>
    let fallback := fallbackCatalogue py
    (fallback,{ fingerprint := some fingerprint, catalogue := some fallback, source := .fallback
                error := error, hasLive := false })

/-- `_load_if_needed` when `_fingerprint` gives the fingerprint and a read of the file would end
in this way. It returns no catalogue where it raises. -/
def loadIfNeeded (fingerprint : Option Fingerprint) (read : Load) (s : LoaderState) :
    Option Catalogue × LoaderState :=
  match s.cached fingerprint,fingerprint with
  | some known,_ => (some known,s)
  | none,none =>
    (s.withoutFile py none "Service catalogue file is unavailable").map some id
  | none,some found =>
    match read with
    | .live catalogue =>
      (some catalogue,{ fingerprint := some (some found), catalogue := some catalogue
                        source := .live, error := "", hasLive := true })
    | .failed error => (s.withoutFile py (some found) error).map some id
    | .raised => (none,s)

end Loader

section Histories
variable (py : PyRuntime)

/-- A failure of `stat`, or one of the read, with its text. -/
inductive FileFault
  | stat
  | read (error : String)
  deriving DecidableEq, Repr

/-- What happens to the catalogue file, and the calls that classify. -/
inductive CatalogEvent
  | replace (file : CatalogFile)
  | delete
  | call (fault : Option FileFault)
  deriving Repr

/-- The file, the fingerprints that files ever had and the state of the loader. -/
structure CatalogSystem where
  file : Option CatalogFile := none
  seen : List Fingerprint := []
  loader : LoaderState := {}
  deriving Repr

/-- What `_fingerprint` gives. -/
def CatalogSystem.stat (s : CatalogSystem) (fault : Option FileFault) : Option Fingerprint :=
  if fault=some .stat then none else s.file.map CatalogFile.fingerprint

/-- How a read of the file ends. -/
def CatalogSystem.read (s : CatalogSystem) (fault : Option FileFault) : Load :=
  match fault,s.file with
  | some (.read error),_ => .failed error
  | _,some file => loadFile py file.content
  | _,none => .failed "FileNotFoundError"

/-- What a call returns, and the state after it. -/
def CatalogSystem.call (s : CatalogSystem) (fault : Option FileFault) :
    Option Catalogue × LoaderState :=
  loadIfNeeded py (s.stat fault) (s.read py fault) s.loader

def CatalogSystem.next (e : CatalogEvent) (s : CatalogSystem) : CatalogSystem :=
  match e with
  | .replace file => { s with file := some file, seen := file.fingerprint::s.seen }
  | .delete => { s with file := none }
  | .call fault => { s with loader := (s.call py fault).2 }

/-- Every replacement has a fingerprint that no file had before. -/
def Fresh (e : CatalogEvent) (s : CatalogSystem) : Prop :=
  match e with
  | .replace file => file.fingerprint ∉ s.seen
  | _ => True

end Histories

section Authority
variable (py : PyRuntime)

/-- The classifier as it is meant to be: the file, and the catalogue that was loaded last. -/
structure Published where
  file : Option CatalogFile := none
  authority : Option Catalogue := none

/-- The catalogue of a file that is present, valid and readable. -/
def Published.readable (p : Published) (fault : Option FileFault) : Option Catalogue :=
  match fault,p.file with
  | none,some file => match loadFile py file.content with
    | .live catalogue => some catalogue
    | _ => none
  | _,_ => none

/-- A call loads the catalogue of the file if it can, and keeps the last one otherwise. -/
def Published.next (e : CatalogEvent) (p : Published) : Published :=
  match e with
  | .replace file => { p with file := some file }
  | .delete => { p with file := none }
  | .call fault => { p with authority := (p.readable py fault).or p.authority }

/-- The catalogue that was loaded last in a history. -/
def authority (events : List CatalogEvent) : Option Catalogue :=
  (after (Published.next py) events {}).authority

/-- A call at the end of a history follows the catalogue: the built-in fallback is not used once
a catalogue was loaded, a call that cannot read a valid file uses the catalogue loaded last, and
one that can uses that file. -/
structure Follows (events : List CatalogEvent) (fault : Option FileFault) : Prop where
  neverFallback : (authority py events).isSome →
    ((after (CatalogSystem.next py) events {}).call py fault).2.source≠.fallback
  keepsLast : (after (Published.next py) events {}).readable py fault=none →
    ∀ catalogue, authority py events=some catalogue →
      ((after (CatalogSystem.next py) events {}).call py fault).1=some catalogue
  usesFile : ∀ catalogue, (after (Published.next py) events {}).readable py fault=some catalogue →
    ((after (CatalogSystem.next py) events {}).call py fault).1=some catalogue

/-- A call reads a file that is not the one in use, and its read of a valid catalogue does not
fail, nor does the text nest too deeply. -/
def Clean (e : CatalogEvent) (s : CatalogSystem) : Prop :=
  match e with
  | .call fault => ∀ file, s.file=some file → fault≠some .stat →
      s.loader.cached (some file.fingerprint)=none →
      (∀ catalogue, loadFile py file.content=.live catalogue → fault=none) ∧
      (fault=none → loadFile py file.content≠.raised)
  | _ => True

/-- The loader beside the classifier as it is meant to be. -/
structure Coupled (s : CatalogSystem) (p : Published) : Prop where
  file : s.file=p.file
  recorded : ∀ fingerprint, s.loader.fingerprint=some (some fingerprint) → fingerprint ∈ s.seen
  current : ∀ file, s.file=some file → file.fingerprint ∈ s.seen
  hasLive : s.loader.hasLive=p.authority.isSome
  inUse : ∀ known, s.loader.catalogue=some known →
    known=p.authority.getD (fallbackCatalogue py)
  known : p.authority.isSome → s.loader.catalogue.isSome
  source : p.authority.isSome → s.loader.source≠.fallback
  loaded : ∀ file catalogue, s.file=some file →
    s.loader.fingerprint=some (some file.fingerprint) → s.loader.catalogue.isSome →
    loadFile py file.content=.live catalogue → p.authority=some catalogue

variable {py}

/-- Without a file the catalogue loaded last stays in use, and before one was loaded the
fallback. -/
lemma Coupled.withoutFile {s : CatalogSystem} {p : Published} (h : Coupled py s p)
    (fingerprint : Option Fingerprint) (error : String)
    (hseen : ∀ found, fingerprint=some found → found ∈ s.seen)
    (hinvalid : ∀ file catalogue, s.file=some file → fingerprint=some file.fingerprint →
      loadFile py file.content≠.live catalogue) :
    (s.loader.withoutFile py fingerprint error).1=p.authority.getD (fallbackCatalogue py) ∧
      Coupled py { s with loader := (s.loader.withoutFile py fingerprint error).2 } p := by
  have hrecorded : ∀ found, some fingerprint=some (some found) → found ∈ s.seen := fun found hf =>
    hseen found (Option.some.inj hf)
  have hloaded {P : Prop} : ∀ file catalogue, s.file=some file →
      some fingerprint=some (some file.fingerprint) → P →
      loadFile py file.content=.live catalogue → p.authority=some catalogue :=
    fun file catalogue hfile hf _ hlive =>
      absurd hlive (hinvalid file catalogue hfile (Option.some.inj hf))
  cases hauthority : p.authority with
  | none =>
    have hlive : s.loader.hasLive=false := by rw [h.hasLive,hauthority]; rfl
    unfold LoaderState.withoutFile
    rw [hlive]
    refine ⟨rfl,h.file,hrecorded,h.current,?_,?_,?_,?_,hloaded⟩
    · rw [hauthority]
      rfl
    · rintro known hknown
      obtain rfl := Option.some.inj hknown
      rw [hauthority]
      rfl
    · simp
    · simp [hauthority]
  | some last =>
    have hsome : p.authority.isSome := by simp [hauthority]
    have hlive : s.loader.hasLive=true := h.hasLive.trans hsome
    obtain ⟨known,hknown⟩ := Option.isSome_iff_exists.mp (h.known hsome)
    have hlast : known=last := by rw [h.inUse known hknown,hauthority]; rfl
    subst hlast
    unfold LoaderState.withoutFile
    rw [hlive,hknown]
    exact ⟨rfl,h.file,hrecorded,h.current,hlive.symm.trans h.hasLive,
      fun k hk => h.inUse k (hknown.trans hk),fun _ => rfl,fun _ => by simp,hloaded⟩

/-- A call of the classifier as it is meant to be that cannot load changes nothing. -/
lemma next_of_unreadable {p : Published} {fault : Option FileFault}
    (h : p.readable py fault=none) : p.next py (.call fault)=p := by
  unfold Published.next
  simp [h]

lemma readable_eq_some {p : Published} {fault : Option FileFault} {catalogue : Catalogue} :
    p.readable py fault=some catalogue ↔ fault=none ∧
      ∃ file, p.file=some file ∧ loadFile py file.content=.live catalogue := by
  unfold Published.readable
  cases fault with
  | some _ => simp
  | none =>
    cases p.file with
    | none => simp
    | some file => cases hload : loadFile py file.content <;> simp [hload]

/-- A call that finds its catalogue in use returns it and changes nothing. -/
lemma Coupled.cached {s : CatalogSystem} {p : Published} (h : Coupled py s p)
    {fault : Option FileFault} {known : Catalogue}
    (hcached : s.loader.cached (s.stat fault)=some known) :
    p.next py (.call fault)=p ∧ some known=some (p.authority.getD (fallbackCatalogue py)) := by
  unfold LoaderState.cached at hcached
  split_ifs at hcached with hfingerprint
  refine ⟨?_,congrArg some (h.inUse known hcached)⟩
  cases hread : p.readable py fault with
  | none => exact next_of_unreadable hread
  | some catalogue =>
    obtain ⟨rfl,file,hfile,hlive⟩ := readable_eq_some.mp hread
    rw [← h.file] at hfile
    have hstat : s.stat none=some file.fingerprint := by simp [CatalogSystem.stat,hfile]
    have hauthority := h.loaded file catalogue hfile (hfingerprint.trans (congrArg some hstat))
      (by simp [hcached]) hlive
    unfold Published.next
    simp only [hread,← hauthority,Option.or_self]

/-- What a call returns, and what it leaves behind. -/
lemma Coupled.call {s : CatalogSystem} {p : Published} (h : Coupled py s p)
    (fault : Option FileFault) (hclean : Clean py (.call fault) s) :
    (s.call py fault).1=
      some ((p.next py (.call fault)).authority.getD (fallbackCatalogue py)) ∧
      Coupled py (s.next py (.call fault)) (p.next py (.call fault)) := by
  have hcall : s.call py fault=loadIfNeeded py (s.stat fault) (s.read py fault) s.loader := rfl
  have hnext : s.next py (.call fault)={ s with loader := (s.call py fault).2 } := rfl
  unfold loadIfNeeded at hcall
  -- what an error leaves behind, where nothing could be loaded
  have herror : ∀ error,
      s.call py fault=(s.loader.withoutFile py (s.stat fault) error).map some id →
      p.readable py fault=none → (∀ file catalogue, s.file=some file →
        s.stat fault=some file.fingerprint → loadFile py file.content≠.live catalogue) →
      (s.call py fault).1=
        some ((p.next py (.call fault)).authority.getD (fallbackCatalogue py)) ∧
        Coupled py (s.next py (.call fault)) (p.next py (.call fault)) := by
    intro error heq hread hinvalid
    have hseen : ∀ found, s.stat fault=some found → found ∈ s.seen := by
      intro found hfound
      unfold CatalogSystem.stat at hfound
      split_ifs at hfound
      obtain ⟨file,hfile,rfl⟩ := Option.map_eq_some_iff.mp hfound
      exact h.current file hfile
    obtain ⟨hresult,hstate⟩ := h.withoutFile (s.stat fault) error hseen hinvalid
    rw [next_of_unreadable hread,hnext,heq]
    exact ⟨congrArg some hresult,hstate⟩
  cases hcached : s.loader.cached (s.stat fault) with
  | some known =>
    obtain ⟨hsame,hknown⟩ := h.cached hcached
    rw [hcached] at hcall
    rw [hnext,hsame,hcall]
    exact ⟨hknown,h⟩
  | none =>
    rw [hcached] at hcall
    cases hstat : s.stat fault with
    | none =>
      rw [hstat] at hcall
      refine herror _ (by rw [hstat]; exact hcall) ?_ (by simp [hstat])
      by_contra hread
      obtain ⟨catalogue,hread⟩ := Option.ne_none_iff_exists'.mp hread
      obtain ⟨rfl,file,hfile,_⟩ := readable_eq_some.mp hread
      simp [CatalogSystem.stat,h.file,hfile] at hstat
    | some found =>
      rw [hstat] at hcall
      have hnostat : fault≠some .stat := fun heq => by simp [CatalogSystem.stat,heq] at hstat
      obtain ⟨file,hfile,rfl⟩ : ∃ file, s.file=some file ∧ file.fingerprint=found := by
        unfold CatalogSystem.stat at hstat
        rw [if_neg hnostat] at hstat
        exact Option.map_eq_some_iff.mp hstat
      obtain ⟨hvalid,hraised⟩ := hclean file hfile hnostat (hstat ▸ hcached)
      cases fault with
      | some fault =>
        cases fault with
        | stat => exact absurd rfl hnostat
        | read error =>
          refine herror error (by rw [hstat]; exact hcall) rfl ?_
          rintro other catalogue hother _ hlive
          obtain rfl := Option.some.inj (hfile.symm.trans hother)
          cases hvalid catalogue hlive
      | none =>
        have hread : s.read py none=loadFile py file.content := by
          simp [CatalogSystem.read,hfile]
        rw [hread] at hcall
        cases hload : loadFile py file.content with
        | raised => exact absurd hload (hraised rfl)
        | failed error =>
          rw [hload] at hcall
          refine herror error (by rw [hstat]; exact hcall) ?_ ?_
          · simp [Published.readable,← h.file,hfile,hload]
          · rintro other catalogue hother _ hlive
            obtain rfl := Option.some.inj (hfile.symm.trans hother)
            rw [hload] at hlive
            cases hlive
        | live catalogue =>
          rw [hload] at hcall
          have hauthority : (p.next py (.call none)).authority=some catalogue := by
            simp [Published.next,Published.readable,← h.file,hfile,hload]
          rw [hnext,hcall,hauthority]
          refine ⟨rfl,h.file,?_,h.current,?_,?_,?_,?_,?_⟩
          · rintro fingerprint heq
            obtain rfl := Option.some.inj (Option.some.inj heq)
            exact h.current file hfile
          · rw [hauthority]
            rfl
          · rintro known hknown
            rw [hauthority,← Option.some.inj hknown]
            rfl
          · exact fun _ => rfl
          · exact fun _ => by simp
          · rintro other later hother _ _ hlive
            obtain rfl := Option.some.inj (hfile.symm.trans hother)
            rw [hload] at hlive
            rw [hauthority,Load.live.inj hlive]

/-- One step keeps the loader beside the classifier as it is meant to be. -/
lemma Coupled.next {s : CatalogSystem} {p : Published} (h : Coupled py s p) {e : CatalogEvent}
    (hfresh : Fresh e s) (hclean : Clean py e s) : Coupled py (s.next py e) (p.next py e) := by
  cases e with
  | replace file =>
    have hnew : s.loader.fingerprint≠some (some file.fingerprint) := fun heq =>
      hfresh (h.recorded file.fingerprint heq)
    refine ⟨rfl,fun found hf => List.mem_cons_of_mem _ (h.recorded found hf),?_,h.hasLive,h.inUse,
      h.known,h.source,?_⟩
    · rintro other hother
      rw [← Option.some.inj hother]
      exact List.mem_cons_self
    · rintro other catalogue hother hrecorded
      rw [← Option.some.inj hother] at hrecorded
      exact absurd hrecorded hnew
  | delete =>
    exact ⟨rfl,h.recorded,nofun,h.hasLive,h.inUse,h.known,h.source,nofun⟩
  | call fault => exact (h.call fault hclean).2

lemma coupled_initial : Coupled py {} {} := ⟨rfl,nofun,nofun,rfl,nofun,nofun,nofun,nofun⟩

/-- Along a run that meets the condition the loader stays beside the classifier as it is meant to
be. -/
lemma coupled_after {events : List CatalogEvent}
    (hfresh : Each (CatalogSystem.next py) Fresh events {})
    (hclean : Each (CatalogSystem.next py) (Clean py) events {}) :
    Coupled py (after (CatalogSystem.next py) events {}) (after (Published.next py) events {}) := by
  induction events using List.reverseRecOn with
  | nil => exact coupled_initial
  | append_singleton events e ih =>
    obtain ⟨hfresh,hlast,_⟩ := Each.append.mp hfresh
    obtain ⟨hclean,hclear,_⟩ := Each.append.mp hclean
    rw [after_append,after_append]
    exact (ih hfresh hclean).next hlast hclear

/-- In a run in which no call fails to read a valid catalogue that is not in use yet, and none
reads a text that nests too deeply, every call follows the catalogue. -/
theorem follows_of_clean (run : List CatalogEvent)
    (hfresh : Each (CatalogSystem.next py) Fresh run {})
    (hclean : Each (CatalogSystem.next py) (Clean py) run {}) :
    ∀ before fault rest, run=before ++ .call fault::rest → Follows py before fault := by
  rintro before fault rest rfl
  obtain ⟨hfresh,_⟩ := Each.append.mp hfresh
  obtain ⟨hclean,hcall,_⟩ := Each.append.mp hclean
  obtain ⟨hused,hcoupled⟩ := (coupled_after hfresh hclean).call fault hcall
  have hauthority : authority py before=(after (Published.next py) before {}).authority := rfl
  refine ⟨fun hsome => ?_,fun hread catalogue hlast => ?_,fun catalogue hread => ?_⟩
  · refine hcoupled.source ?_
    rw [hauthority] at hsome
    simp only [Published.next,Option.isSome_or,hsome,Bool.or_true]
  · rw [hused,next_of_unreadable hread,← hauthority,hlast]
    rfl
  · rw [hused]
    simp [Published.next,hread]

section Example

def plainRuntime : PyRuntime :=
  { lower := nocase, lower_ascii := nocase_ascii, casefold := nocase, containerText := fun _ => "" }

/-- A catalogue without services, and one with a service. -/
def emptyFile : CatalogFile := ⟨(1,1,1,1),.value (.dict [("services",.list [])])⟩

def videoFile : CatalogFile :=
  ⟨(1,2,1,1),.value (.dict [("services",.list [.dict
    [("key",.str "vimeo"),("name",.str "Vimeo"),("dns_suffixes",.list [.str "vimeo.com"])]])])⟩

/-- The first read of the second catalogue fails; no later one is made. -/
def missedRun : List CatalogEvent :=
  [.replace emptyFile,.call none,.replace videoFile,.call (some (.read "OSError")),.call none]

/-- A file that is no JSON text. -/
def brokenFile : CatalogFile := ⟨(1,3,1,1),.refused "JSONDecodeError"⟩

/-- A catalogue is loaded, its file is broken, removed and written anew. -/
def rewrittenRun : List CatalogEvent :=
  [.replace videoFile,.call none,.replace brokenFile,.call none,.delete,.call none,
    .replace emptyFile,.call none]

lemma clean_call {py : PyRuntime} {s : CatalogSystem} {file : CatalogFile}
    (h : s.file=some file) (hload : loadFile py file.content≠.raised) :
    Clean py (.call none) s := fun found hfound _ _ => by
  obtain rfl := Option.some.inj (hfound.symm.trans h)
  exact ⟨fun _ _ => rfl,fun _ => hload⟩

/-- Without its file the first catalogue stays in use, and the second is used when it is there. -/
theorem follows_of_clean_rewritten :
    Follows plainRuntime (rewrittenRun.take 5) none ∧
      Follows plainRuntime (rewrittenRun.take 7) none := by
  have hfresh : Each (CatalogSystem.next plainRuntime) Fresh rewrittenRun {} :=
    ⟨List.not_mem_nil,trivial,(by decide : brokenFile.fingerprint ∉ [videoFile.fingerprint]),
      trivial,trivial,trivial,
      (by decide : emptyFile.fingerprint ∉ [brokenFile.fingerprint,videoFile.fingerprint]),
      trivial,trivial⟩
  have hclean : Each (CatalogSystem.next plainRuntime) (Clean plainRuntime) rewrittenRun {} :=
    ⟨trivial,@clean_call _ _ videoFile rfl (by decide),trivial,
      @clean_call _ _ brokenFile rfl (by decide),trivial,nofun,trivial,
      @clean_call _ _ emptyFile rfl (by decide),trivial⟩
  exact ⟨follows_of_clean rewrittenRun hfresh hclean _ none [.replace emptyFile,.call none] rfl,
    follows_of_clean rewrittenRun hfresh hclean _ none [] rfl⟩

/-- The last call has the second catalogue before it and still uses the first. -/
theorem missed_catalogue : ¬∀ (py : PyRuntime) (run : List CatalogEvent),
    Each (CatalogSystem.next py) Fresh run {} →
    ∀ before fault rest, run=before ++ .call fault::rest → Follows py before fault := by
  intro h
  have hfresh : Each (CatalogSystem.next plainRuntime) Fresh missedRun {} :=
    ⟨List.not_mem_nil,trivial,
      (by decide : videoFile.fingerprint ∉ [emptyFile.fingerprint]),trivial,trivial,trivial⟩
  have hfollows := (h plainRuntime missedRun hfresh missedRun.dropLast none [] rfl).usesFile _ rfl
  exact absurd (congrArg (Option.map fun c => c.domains.length) hfollows) (by decide)

end Example
end Authority
end ZenControl.Telemetry
