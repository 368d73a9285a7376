import SafeCameroon.Domain.Case

namespace SafeCameroon

inductive ReportSourceChannel where
  | web
  | sms
  | whatsapp
  | phone
  | partnerApi
  deriving DecidableEq, Repr

def ReportSourceChannel.asDatabaseValue : ReportSourceChannel → String
  | .web => "WEB"
  | .sms => "SMS"
  | .whatsapp => "WHATSAPP"
  | .phone => "PHONE"
  | .partnerApi => "PARTNER_API"

inductive ReportStatus where
  | received
  | underReview
  | linkedToCase
  | closed
  deriving DecidableEq, Repr

def ReportStatus.rank : ReportStatus → Nat
  | .received => 0
  | .underReview => 1
  | .linkedToCase => 2
  | .closed => 3

structure AnonymousReport where
  id : ReportId
  sourceChannel : ReportSourceChannel
  rawContent : String
  reportedIncidentType : Option IncidentType
  deriving DecidableEq, Repr

end SafeCameroon
