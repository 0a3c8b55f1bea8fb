import Cadastre.Decode.YamlSource
import Cadastre.Snapshot.Order

/-!
# The registry of admin modules

A registry lists the admin modules of the dashboard as they were authored, in a YAML text. A module
may leave out its English label and description, which then are those of the primary language.
-/

namespace Cadastre

/-- A module as it was authored. -/
structure Definition where
  /-- The name in addresses. -/
  slug : String
  /-- The label in the primary language. -/
  label : String
  /-- The English label, if it has one. -/
  labelEn : Option String := none
  /-- The endpoint behind the module. -/
  endpoint : String
  /-- The description in the primary language. -/
  description : String
  /-- The English description, if it has one. -/
  descriptionEn : Option String := none
deriving DecidableEq, Repr

/-- Definitions in the order in which they were authored. -/
abbrev Registry := List Definition

/-- A module as it is documented. -/
def Definition.document (d : Definition) : AdminModule where
  slug := d.slug
  label := d.label
  labelEn := d.labelEn.getD d.label
  endpoint := d.endpoint
  description := d.description
  descriptionEn := d.descriptionEn.getD d.description

/-- The modules of a registry as they are documented, by slug. -/
def Registry.document (r : Registry) : List AdminModule :=
  AdminModule.sort (List.map Definition.document r)

open Decode in
/-- How a definition is read. -/
def Definition.shape {σ : Type} [Source σ] : Shape σ Definition where
  name := "ModuleDefinition"
  fields :=
    [ field "slug" string fun v d => { d with slug := v },
      field "label" string fun v d => { d with label := v },
      optionalField "label_en" (Decode.optional string) fun v d => { d with labelEn := v },
      field "endpoint" string fun v d => { d with endpoint := v },
      field "description" string fun v d => { d with description := v },
      optionalField "description_en" (Decode.optional string)
        fun v d => { d with descriptionEn := v } ]
  blank := ⟨"", "", none, "", "", none⟩

/-- A registry read from a YAML text. -/
def Registry.decodeText (text : String) : Decoded Registry :=
  Yaml.decodeString (Decode.list (Decode.record Definition.shape)) text

/-- The registry of the dashboard. -/
def Registry.builtin : Registry :=
  [ ⟨"organizations", "Organizaciones", some "Organizations", "/organizations",
      "Espacios de trabajo, miembros e invitaciones.",
      some "Workspaces, members and invitations."⟩,
    ⟨"properties", "Propiedades", some "Properties", "/properties",
      "Inmuebles administrados por la organización.",
      some "Real estate managed by the organization."⟩,
    ⟨"units", "Unidades", some "Units", "/units",
      "Unidades alquilables dentro de cada propiedad.",
      some "Rentable units inside each property."⟩,
    ⟨"channels", "Canales", some "Channels", "/channels",
      "Conexiones con portales de reservas.", some "Connections to booking portals."⟩,
    ⟨"listings", "Anuncios", some "Listings", "/listings",
      "Publicaciones de unidades en cada canal.", some "Unit publications on each channel."⟩,
    ⟨"guests", "Huéspedes", some "Guests", "/guests",
      "Fichas de huéspedes e historial de estadías.", some "Guest profiles and stay history."⟩,
    ⟨"reservations", "Reservas", some "Reservations", "/reservations",
      "Reservas, estados y cobros asociados.",
      some "Reservations, statuses and related charges."⟩,
    ⟨"calendar", "Calendario", some "Calendar", "/calendar/availability",
      "Disponibilidad y bloqueos por unidad.", some "Availability and blocks per unit."⟩,
    ⟨"tasks", "Tareas", some "Tasks", "/tasks",
      "Limpieza, mantenimiento y checklists operativos.",
      some "Cleaning, maintenance and operational checklists."⟩,
    ⟨"expenses", "Gastos", some "Expenses", "/expenses",
      "Gastos por propiedad y unidad.", some "Expenses per property and unit."⟩,
    ⟨"leases", "Contratos", some "Leases", "/leases",
      "Contratos de alquiler de largo plazo.", some "Long-term rental contracts."⟩,
    ⟨"collections", "Cobranzas", some "Collections", "/collections",
      "Cuotas de alquiler y pagos registrados.",
      some "Rent installments and recorded payments."⟩,
    ⟨"owner-statements", "Liquidaciones", some "Owner statements", "/owner-statements",
      "Liquidaciones mensuales para propietarios.", some "Monthly statements for owners."⟩,
    ⟨"messaging", "Mensajería", some "Messaging", "/message-templates",
      "Plantillas y envíos de mensajes.", some "Message templates and sends."⟩,
    ⟨"integration-events", "Eventos de integración", some "Integration events",
      "/integration-events", "Eventos recibidos desde integraciones externas.",
      some "Events received from external integrations."⟩,
    ⟨"reports", "Reportes", none, "/reports", "Indicadores de ocupación e ingresos.", none⟩ ]

end Cadastre
