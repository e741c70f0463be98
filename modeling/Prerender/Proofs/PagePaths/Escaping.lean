import Prerender.Proofs.PagePaths.Listed
import Prerender.Proofs.Param.Acceptance

/-!
# What reading a listing lets out

Whatever is wrong with the answer of a path function is reported, in a message that shows it. So
what reading it lets out comes from the answer itself: a mapping that cannot be read, keys that have
no order or cannot be written, a value that cannot be compared, or one that is refused and cannot be
written. `ListingEscapes` and `EntryEscapes` say where; that nothing else is let out is what
`readListing_eq_crash_iff` and `readEntries_eq_crash_iff` say.
-/

namespace Prerender

namespace PagePaths

variable {page : ListedPage} {params : List SegmentParam} {locales : List String} {crash : Crash}

/-! ### The listing -/

/-- Reading what a path function answers with lets an exception out. -/
inductive ListingEscapes : Value → Crash → Prop where
  /-- It is a mapping that cannot be read. -/
  | unreadable {answer : Value} {crash : Crash}
      (unread : answer.asMapping? = some (.error (.crash crash))) : ListingEscapes answer crash
  /-- It has unexpected keys, which cannot be sorted or cannot be written. -/
  | keys {entries : Entries} {crash : Crash}
      (unlisted : displayKeys (otherKeys ["paths", "fallback"] entries) = .error (.crash crash)) :
    ListingEscapes (.mapping entries) crash
  /-- Its fallback cannot be compared. -/
  | compared {entries : Entries} {given : Value} {crash : Crash}
      (expected : otherKeys ["paths", "fallback"] entries = [])
      (stands : entries.named.lookup? "fallback" = some given)
      (incomparable : given.compare (.text "blocking") = .error (.crash crash)) :
    ListingEscapes (.mapping entries) crash
  /-- Its fallback is none that there is, and cannot be written. -/
  | fallback {entries : Entries} {given : Value} {crash : Crash}
      (expected : otherKeys ["paths", "fallback"] entries = [])
      (stands : entries.named.lookup? "fallback" = some given)
      (unknown : fallback? given = .ok none) (unwritten : given.display = .error (.crash crash)) :
    ListingEscapes (.mapping entries) crash

/-- Reading the locale of an entry lets an exception out: it cannot be compared with the locales of
the site, or is none of them and cannot be written. -/
inductive LocaleEscapes (locales : List String) : Value → Crash → Prop where
  | compared {given : Value} {crash : Crash}
      (incomparable : given.isAmong (locales.map .text) = .error (.crash crash)) :
    LocaleEscapes locales given crash
  | shown {given : Value} {found : Bool} {crash : Crash}
      (compared : given.isAmong (locales.map .text) = .ok found)
      (unwritten : given.display = .error (.crash crash)) : LocaleEscapes locales given crash

/-- Reading the values of an entry lets an exception out: the first one that its parameter does not
allow cannot be written. -/
inductive ValuesEscape (values : Bindings Value) (params : List SegmentParam) : Crash → Prop where
  | intro {before after : List SegmentParam} {param : SegmentParam} {given : Value} {crash : Crash}
      (split : params = before ++ param :: after)
      (read : ∀ earlier ∈ before,
        ∃ value, Reading earlier.kind (values.lookup? earlier.name) value)
      (stands : values.lookup? param.name = some given)
      (unread : ∀ value, ¬Reading param.kind (some given) value)
      (unwritten : given.display = .error (.crash crash)) : ValuesEscape values params crash

/-- Reading an entry of a listing lets an exception out. -/
inductive EntryEscapes (params : List SegmentParam) (locales : List String) :
    Value → Crash → Prop where
  /-- It is a mapping that cannot be read. -/
  | unreadable {entry : Value} {crash : Crash}
      (unread : entry.asMapping? = some (.error (.crash crash))) :
    EntryEscapes params locales entry crash
  /-- It has unexpected keys, which cannot be sorted or cannot be written. -/
  | keys {entries : Entries} {crash : Crash}
      (unlisted : displayKeys (otherKeys ["params", "locale"] entries) = .error (.crash crash)) :
    EntryEscapes params locales (.mapping entries) crash
  /-- It has no mapping of parameters, and cannot be written. -/
  | noParams {entries : Entries} {crash : Crash}
      (expected : otherKeys ["params", "locale"] entries = [])
      (missing : (entries.named.lookup? "params").bind Value.asMapping? = none)
      (unwritten : (Value.mapping entries).display = .error (.crash crash)) :
    EntryEscapes params locales (.mapping entries) crash
  /-- Its locale lets the exception out. -/
  | locale {entries : Entries} {reading : Except Raised Entries} {given : Value} {crash : Crash}
      (expected : otherKeys ["params", "locale"] entries = [])
      (stands : (entries.named.lookup? "params").bind Value.asMapping? = some reading)
      (named : entries.named.lookup? "locale" = some given)
      (escapes : LocaleEscapes locales given crash) :
    EntryEscapes params locales (.mapping entries) crash
  /-- Its parameters are a mapping that cannot be read. -/
  | params {entries : Entries} {locale : Option String} {crash : Crash}
      (expected : otherKeys ["params", "locale"] entries = [])
      (stands : (entries.named.lookup? "params").bind Value.asMapping?
        = some (.error (.crash crash)))
      (names : NamesLocale locales (entries.named.lookup? "locale") locale) :
    EntryEscapes params locales (.mapping entries) crash
  /-- One of its values lets the exception out. -/
  | value {entries values : Entries} {locale : Option String} {crash : Crash}
      (expected : otherKeys ["params", "locale"] entries = [])
      (stands : (entries.named.lookup? "params").bind Value.asMapping? = some (.ok values))
      (names : NamesLocale locales (entries.named.lookup? "locale") locale)
      (escapes : ValuesEscape values.named params crash) :
    EntryEscapes params locales (.mapping entries) crash

end PagePaths

end Prerender
