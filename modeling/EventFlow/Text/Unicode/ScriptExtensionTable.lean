/-!
# The table of script extensions

The characters that are written in other scripts than their own.  An entry gives
how many code points lie between the entry before and its own ones, how many
these are, and the four letters of every script that they are written in.
-/

namespace EventFlow.Text.Unicode

/-- The characters that are written in other scripts than their own. -/
def scriptExtensions : List String :=
  ["b7.1.AvstCariCoptDuplElbaGeorGlagGongGothGrekHaniLatnLydiMahjPermShaw",
   "204.1.BengCyrlDevaLatnLisuThaiToto a.1.BopoLatn 1.3.BopoLatn 1.1.LatnLisu 9.1.LatnThai",
   "1.1.BopoLatn 26.1.CherCoptCyrlGrekLatnPermSunuTale 0.1.CherCyrlGrekLatnOsgeSunuTaleTodr",
   "0.1.CherCyrlLatnTfng 0.1.GlagLatnSunuSyrcThai",
   "0.1.AghbCherCoptCyrlGothGrekLatnOsgeSyrcTfngTodr 0.1.CoptElbaGlagGothKanaLatn",
   "0.1.CyrlGrekLatnPerm 0.1.CoptDuplHebrLatnPermSyrcTaleTfngTodr",
   "0.1.ArmnCyrlDuplGothGrekHebrLatnPermSyrcTale 0.1.LatnTfng 0.1.DuplLatnSyrc",
   "0.1.CherCyrlLatnOsge 0.1.CherLatnTale 0.1.LatnSunu 0.1.EthiLatn 1.1.LatnSunu",
   "0.1.CyrlLatnTodr 1.1.GrekLatnPermTodr c.1.LatnSyrc 2.1.CherDuplKanaLatnSyrc",
   "0.1.CherDuplLatnSyrc 0.1.LatnSyrc 7.1.LatnSunuSyrc 0.1.LatnSyrc 1.1.CherLatnSyrc",
   "0.1.AghbCherGothLatnSunuThai 10.1.Grek 2.1.Grek 12.1.LatnOsge 5.1.AghbLatnTodr 4.d.Latn",
   "4.2.CoptGrek 10d.1.CyrlPerm 0.1.CyrlGlag 0.2.CyrlLatn 0.1.CyrlGlag 101.1.ArmnGeorGlag",
   "82.1.ArabGaraNkooRohgSyrcThaaYezi e.1.ArabGaraNkooRohgSyrcThaaYezi 0.1.ArabSyrcThaa",
   "2.1.AdlmArabGaraNkooRohgSyrcThaaYezi 20.1.AdlmArabMandManiOugrPhlpRohgSogdSyrc a.b.ArabSyrc",
   "a.a.ArabThaaYezi 6.1.ArabSyrc 63.1.ArabRohg",
   "27c.1.BengDevaGranGujrGuruKndaLatnMlymOryaShrdTamlTeluTirh",
   "0.1.BengDevaGranGujrGuruKndaLatnMlymOryaTamlTeluTirh",
   "11.1.BengDevaDogrGongGonmGranGujrGuruKndaMahjMlymNandOnaoOryaSindSinhSyloTakrTamlTeluTirh",
   "0.1.BengDevaDogrGongGonmGranGujrGukhGuruKndaLimbMahjMlymNandOnaoOryaSindSinhSyloTakrTamlTeluTirh",
   "0.a.DevaDogrKthiMahj 76.a.BengCakmSylo 76.a.GuruMult 76.a.GujrKhoj f6.e.GranTaml",
   "f2.a.KndaNandTutg 350.a.CakmMymrTale b1.1.GeorGlagLatn 5ef.3.Runr 47.2.BuhdHanoTagbTglg",
   "cb.2.MongPhag 1.1.MongPhag 4ca.1.BengDevaGranKnda 0.1.Deva 0.1.BengDevaGranKnda",
   "0.1.DevaGranKnda 0.1.Deva 0.2.BengDeva 0.1.DevaShrd 0.1.BengDeva 0.1.DevaShrd",
   "0.1.DevaKndaMlymOryaTamlTelu 0.1.Deva 0.2.DevaShrd 0.2.Deva 0.1.DevaShrd 0.1.BengDeva",
   "0.7.Deva 0.1.DevaNand 0.1.BengDeva 0.2.Deva 0.1.BengDeva 0.4.Deva",
   "0.1.BengDevaGranKndaMlymNandOryaSinhTeluTirhTutg 0.1.DevaGran 0.1.DevaGranKndaTutg",
   "0.2.BengDeva 0.1.Beng 0.2.DevaGran 0.1.Nand c5.2.Grek 36.1.CyrlLatnSyrc 1.1.Syrc",
   "234.1.LatnMongPhag 1f.1.AdlmArab a.1.CariGeorGlagHungLyciOrkh 2.1.CariGrekHungMero",
   "92.1.DevaGranLatn d26.1.CoptLatn 18.1.AvstOrkh 0.1.AvstCariGeorHungKthiLydiSamr a.1.Dupl",
   "4.1.AdlmArabHung 1.1.CyrlGlag 1ac.10.HaniTang 1.1.BopoHangHaniHiraKanaMongYiii",
   "0.1.BopoHangHaniHiraKanaMongPhagYiii 0.1.BopoHangHaniHiraKana 2.1.Hani",
   "1.2.BopoHangHaniHiraKanaMongTibtYiii 0.2.BopoHangHaniHiraKanaLisuMongTibtYiii",
   "0.6.BopoHangHaniHiraKanaYiii 1.1.BopoHangHaniHiraKana 0.8.BopoHangHaniHiraKanaYiii",
   "0.4.BopoHangHaniHiraKana a.4.BopoHani 2.1.BopoHangHaniHiraKana 0.5.HiraKana",
   "1.1.BopoHangHaniHiraKana 4.2.HaniHiraKana 0.2.Hani 59.4.HiraKana 3.1.HiraKana",
   "5a.1.BopoHangHaniHiraKanaYiii 0.1.HiraKana 93.10.Hani 20.26.Hani 9.1.HaniTang 30.28.Hani",
   "38.31.Hani f.c.Hani 33.1.Hani 58.19.Hani a.5.Hani 60.1f.Hani 7270.1.CyrlGlag 90.8.HaniLatn",
   "128.3.DevaDogrGujrGuruKhojKndaKthiMahjMlymModiNandShrdSindTakrTirhTutg",
   "0.3.DevaDogrGujrGuruKhojKndaKthiMahjModiNandShrdSindTakrTirhTutg",
   "0.2.DevaDogrGujrGuruKhojKthiMahjModiSindTakrTirh",
   "0.1.DevaDogrGujrGuruKhojKthiMahjModiShrdSindTakrTirh",
   "0.1.DevaDogrGujrGuruKhojKthiMahjModiSindTakrTirh b7.1.BengDevaTutg 1.1.DevaTaml",
   "3a.1.KaliLatnMymr a0.1.BugiJava 536e.2.ArabNkoo b2.1.ArabThaa a.1.ArabThaa",
   "47.2.BopoHangHaniHiraKana 11a.5.BopoHangHaniHiraKanaYiii a.1.HiraKana 2d.2.HiraKana",
   "160.2.CpmnCprtLinb 0.1.CprtLinb 4.2d.CprtLinaLinb 3.9.CprtLinb 1a0.1c.ArabCopt",
   "7f6.1.ManiOugr 80e.1.GranTaml 1.1.GranTaml 37.2.GranTaml c93.2.GranTaml 1.1.GranTaml",
   "9ccc.4.Dupl 16bc.12.Hani 1ede.2.Hani"]

end EventFlow.Text.Unicode
