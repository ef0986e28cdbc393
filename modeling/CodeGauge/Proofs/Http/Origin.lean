import CodeGauge.Http.Origin
import CodeGauge.Proofs.Text.Parts

/-!
This module contains the form of the origins from which requests are allowed. They are a star alone,
or the parts of the setting without blanks and empty ones, and none of these is a star. Written with
commas between them they are read as they are.
-/

namespace CodeGauge

open Text

namespace Settings

variable {text part : String} {entries : List String}


/--
Whether a text stands between two commas of a list as it is.
-/
structure IsEntry (entry : String) : Prop where
  ne_empty : entry ≠ ""
  trim_eq : trim entry = entry
  comma : ',' ∉ entry.toList

/--
The parts between the commas of the setting, without the blanks around them.
-/
def originParts (settings : Settings) : List String :=
  (commaParts settings.allowedOrigins).map trim

theorem listed_eq (text : String) :
    listed text = ((commaParts text).map trim).filter (· ≠ "") := by
  unfold listed commaParts
  induction text.toList.splitOn ',' with
  | nil => rfl
  | cons part parts ih =>
    simp only [List.map_cons, List.filterMap_cons, List.filter_cons, ih]
    by_cases hpart : strip isBlank part = [] <;> simp [trim, hpart]

theorem isEntry_of_mem_listed (h : part ∈ listed text) : IsEntry part := by
  rw [listed_eq, List.mem_filter] at h
  obtain ⟨hmem, hne⟩ := h
  obtain ⟨part, hpart, rfl⟩ := List.mem_map.1 hmem
  refine ⟨by simpa using hne, trim_trim part, ?_⟩
  intro hcomma
  rw [trim, String.toList_ofList] at hcomma
  exact comma_not_mem_of_mem_commaParts hpart ((strip_isInfix isBlank _).subset hcomma)

theorem filter_map_trim (h : ∀ entry ∈ entries, IsEntry entry) :
    (entries.map trim).filter (· ≠ "") = entries := by
  have htrim : entries.map trim = entries := by
    rw [List.map_congr_left fun entry hentry => (h entry hentry).trim_eq, List.map_id']
  rw [htrim, List.filter_eq_self]
  intro entry hentry
  simpa using (h entry hentry).ne_empty

/--
A list of entries is read back from its text.
-/
theorem listed_intercalate (h : ∀ entry ∈ entries, IsEntry entry) :
    listed (",".intercalate entries) = entries := by
  by_cases hne : entries = []
  . subst hne
    decide
  . rw [listed_eq, commaParts_intercalate hne fun entry hentry => (h entry hentry).comma,
      filter_map_trim h]

variable (settings : Settings)

theorem star_mem_listed_iff : "*" ∈ listed text ↔ "*" ∈ (commaParts text).map trim := by
  rw [listed_eq, List.mem_filter]
  simp

theorem origins_of_star_mem (h : "*" ∈ listed settings.allowedOrigins) :
    settings.origins = ["*"] := by
  simp [origins, h]

theorem origins_of_star_not_mem (h : "*" ∉ listed settings.allowedOrigins) :
    settings.origins = listed settings.allowedOrigins := by
  simp [origins, h]

theorem star_mem_origins_iff :
    "*" ∈ settings.origins ↔ "*" ∈ settings.originParts := by
  rw [originParts, ← star_mem_listed_iff]
  by_cases h : "*" ∈ listed settings.allowedOrigins
  . simp [origins_of_star_mem settings h, h]
  . rw [origins_of_star_not_mem settings h]

theorem isEntry_of_mem_origins {origin : String} (h : origin ∈ settings.origins) :
    IsEntry origin := by
  by_cases hstar : "*" ∈ listed settings.allowedOrigins
  . rw [origins_of_star_mem settings hstar, List.mem_singleton] at h
    exact h ▸ isEntry_of_mem_listed hstar
  . rw [origins_of_star_not_mem settings hstar] at h
    exact isEntry_of_mem_listed h

theorem origins_eq_star_iff : settings.origins = ["*"] ↔ "*" ∈ settings.origins := by
  constructor
  . intro h
    rw [h]
    exact List.mem_singleton_self "*"
  . intro h
    rw [star_mem_origins_iff, originParts, ← star_mem_listed_iff] at h
    exact origins_of_star_mem settings h

/--
Origins that are written with commas between them are read as the same origins.
-/
theorem origins_eq_of_allowedOrigins_eq {settings' : Settings}
    (h : settings'.allowedOrigins = ",".intercalate settings.origins) :
    settings'.origins = settings.origins := by
  have hlisted : listed settings'.allowedOrigins = settings.origins := by
    rw [h]
    exact listed_intercalate fun _ => isEntry_of_mem_origins settings
  by_cases hstar : "*" ∈ settings.origins
  . rw [origins_of_star_mem settings' (hlisted ▸ hstar), (origins_eq_star_iff settings).2 hstar]
  . rw [origins_of_star_not_mem settings' (hlisted ▸ hstar), hlisted]

theorem credentials_iff :
    (Http.OriginPolicy.ofSettings settings).credentials ↔ "*" ∉ settings.origins := by
  simp [Http.OriginPolicy.credentials, Http.OriginPolicy.allowsAll, Http.OriginPolicy.ofSettings]

/--
The origins are a star alone if and only if a star stands between two commas of the setting. If none
does, they are all that stands between its commas, apart from blanks and empty parts. So requests
may carry credentials if and only if no star allows all origins. With commas between them the
origins are a setting with the same origins.
-/
theorem origins_normal :
    (",".intercalate (commaParts settings.allowedOrigins) = settings.allowedOrigins
        ∧ ∀ part ∈ commaParts settings.allowedOrigins, ',' ∉ part.toList)
      ∧ (settings.origins = ["*"] ↔ "*" ∈ settings.originParts)
      ∧ ("*" ∉ settings.originParts →
        settings.origins = settings.originParts.filter (· ≠ "") ∧ "*" ∉ settings.origins)
      ∧ ((Http.OriginPolicy.ofSettings settings).credentials ↔ "*" ∉ settings.origins)
      ∧ ((Http.OriginPolicy.ofSettings settings).credentials ↔ "*" ∉ settings.originParts)
      ∧ { settings with allowedOrigins := ",".intercalate settings.origins }.origins
        = settings.origins := by
  have hparts := star_mem_origins_iff settings
  refine ⟨⟨intercalate_commaParts _, fun _ => comma_not_mem_of_mem_commaParts⟩, ?star, ?list,
    credentials_iff settings, ?credentials, origins_eq_of_allowedOrigins_eq settings rfl⟩
  case star => rw [origins_eq_star_iff, hparts]
  case list =>
    intro h
    refine ⟨?_, fun hmem => h (hparts.1 hmem)⟩
    rw [origins_of_star_not_mem settings (fun hmem => h (star_mem_listed_iff.1 hmem)), listed_eq]
    rfl
  case credentials => rw [credentials_iff, hparts]

theorem origins_normal_mixed :
    "*" ∉ originParts { allowedOrigins := " http://a.b\t,,*x,\u2003" }
      ∧ origins { allowedOrigins := " http://a.b\t,,*x,\u2003" }
        = (originParts { allowedOrigins := " http://a.b\t,,*x,\u2003" }).filter (· ≠ "")
      ∧ "*" ∉ origins { allowedOrigins := " http://a.b\t,,*x,\u2003" } := by
  have h : "*" ∉ originParts { allowedOrigins := " http://a.b\t,,*x,\u2003" } := by
    decide +kernel
  exact ⟨h, (origins_normal _).2.2.1 h⟩

end Settings
end CodeGauge
